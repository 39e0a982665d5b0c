import ExporterAudit.Text.Percent

/-!
Name and value pairs as they stand in the query of an address: pairs between ampersands, an equals
sign in each, a plus sign for a space and percent escapes for what is not plain. The reader takes
every text; of a written one it gives back the pairs.
-/

namespace ExporterAudit.FormEncoding

/-- What stands for itself. -/
def isPlain (c : Char) : Bool :=
  c.isAlphanum || c == '*' || c == '-' || c == '.' || c == '_'

def encodeChar (c : Char) : Text :=
  if isPlain c then [c]
  else if c = ' ' then ['+']
  else (Text.charBytes c).flatMap Text.Percent.escape

def encode (text : Text) : Text :=
  text.flatMap encodeChar

def pairText (pair : Text × Text) : Text :=
  encode pair.1 ++ '=' :: encode pair.2

/-- The text of pairs. -/
def write (pairs : List (Text × Text)) : Text :=
  Text.join "&" (pairs.map pairText)

def decode (text : Text) : Text :=
  Text.Percent.decode (text.map fun c => if c = '+' then ' ' else c)

/-- A pair as it was written; without an equals sign the value is empty. -/
def readPair (text : Text) : Text × Text :=
  let (name, value) := (Text.splitFirst? '=' text).getD (text, [])
  (decode name, decode value)

/-- The pairs of a text; nothing between two ampersands is no pair. -/
def read (text : Text) : List (Text × Text) :=
  ((Text.splitOn '&' text).filter (· ≠ [])).map readPair

/-- Gives a name a value: in place of the first pair of the name, if there is one, and at the end
otherwise. -/
def set (name value : Text) : List (Text × Text) → List (Text × Text)
  | [] => [(name, value)]
  | pair :: rest =>
    if pair.1 = name then
      (name, value) :: rest.filter (·.1 ≠ name)
    else
      pair :: set name value rest

end ExporterAudit.FormEncoding
