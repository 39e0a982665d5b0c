import ExporterAudit.Text.Percent
import ExporterAudit.Text.Units

/-!
Texts as messages show them: between quotes, with control characters escaped, and a long text of
several lines in pieces. The quotes are single ones, unless the text has such and other quotes
spare an escape.
-/

namespace ExporterAudit.Text.Quoted

def isControl (c : Char) : Bool :=
  let n := c.toNat
  n < 0x20 || (0x7F ≤ n && n < 0xA0)

/-- Whether two characters stand side by side in a text. -/
def hasPair (a b : Char) : Text → Bool
  | x :: y :: rest => (x == a && y == b) || hasPair a b (y :: rest)
  | _ => false

/-- The quote to put around a text. -/
def quoteFor (text : Text) : Char :=
  if !text.contains '\'' then '\''
  else if !text.contains '"' then '"'
  else if !text.contains '\x60' && !hasPair '$' '\x7b' text then '\x60'
  else '\''

/-- A character between quotes. -/
def escape (quote : Char) (c : Char) : Text :=
  if c = '\n' then "\\n"
  else if c = '\t' then "\\t"
  else if c = '\r' then "\\r"
  else if c = '\x08' then "\\b"
  else if c = '\x0c' then "\\f"
  else if c = '\\' ∨ (c = quote ∧ quote = '\'') then ['\\', c]
  else if isControl c then "\\x" ++ [Percent.digit (c.toNat / 16), Percent.digit (c.toNat % 16)]
  else [c]

/-- A text between quotes. -/
def piece (text : Text) : Text :=
  let quote := quoteFor text
  quote :: text.flatMap (escape quote) ++ [quote]

/-- Cuts a text after each LF. -/
def lines : Text → List Text
  | [] => [[]]
  | c :: rest =>
    if c = '\n' ∧ rest ≠ [] then
      [c] :: lines rest
    else
      match lines rest with
      | [] => [[c]]
      | line :: rest => (c :: line) :: rest

/-- The greatest length of a text in one piece, in UTF-16 units. -/
def longestPiece : Nat := 124

/-- A text between quotes, in pieces if it is long. -/
def whole (text : Text) : Text :=
  if unitLength text ≤ longestPiece then piece text
  else Text.join " +\n  " ((lines text).map piece)

/-- The greatest length that is shown, in UTF-16 units. -/
def longestShown : Nat := 128

/-- The text as a message shows it; what is too long ends with an ellipsis. -/
def shown (text : Text) : Text :=
  let quoted := units (whole text)
  if quoted.length ≤ longestShown then whole text
  else ofUnits (quoted.take longestShown) ++ "..."

end ExporterAudit.Text.Quoted
