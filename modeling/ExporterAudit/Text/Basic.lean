/-!
Text as a list of characters, so that every reader and printer of the library is a recursion on
it. String literals are read as text where text is expected.
-/

namespace ExporterAudit

/-- A text is the list of its characters. -/
abbrev Text := List Char

namespace Text

instance : Coe String Text := ⟨String.toList⟩

/-- Joins texts with a separator between neighbours. -/
def join (separator : Text) (texts : List Text) : Text :=
  separator.intercalate texts

/-- Cuts a text at every occurrence of a character. -/
def splitOn (separator : Char) : Text → List Text
  | [] => [[]]
  | c :: rest =>
    if c = separator then
      [] :: splitOn separator rest
    else
      match splitOn separator rest with
      | [] => [[c]]
      | piece :: pieces => (c :: piece) :: pieces

/-- Cuts a text at the first occurrence of a character; `none` if there is none. -/
def splitFirst? (separator : Char) : Text → Option (Text × Text)
  | [] => none
  | c :: rest =>
    if c = separator then
      some ([], rest)
    else
      (splitFirst? separator rest).map fun (before, after) => (c :: before, after)

/-- The rest of a text after a given beginning. -/
def dropPrefix? : (beginning : Text) → Text → Option Text
  | [], rest => some rest
  | _ :: _, [] => none
  | b :: beginning, c :: rest => if b = c then dropPrefix? beginning rest else none

/-- Whether a text begins with another. -/
def startsWith (text beginning : Text) : Bool :=
  beginning.isPrefixOf text

/-- The decimal digits of a natural number. -/
def ofNat (n : Nat) : Text :=
  Nat.toDigits 10 n

end Text

end ExporterAudit
