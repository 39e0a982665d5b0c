import ExporterAudit.Binary64.Numeral

/-!
Properties of code points as runs. A table is written as lines of entries with blanks between them,
each a hexadecimal count, which is left out if it is one, and a value: the first run begins at code
point zero, each other where the one before it ends.
-/

namespace ExporterAudit.Unicode

/-- A property of code points: counts of neighbours that have the same value. -/
abbrev Runs (α : Type) := List (Nat × α)

/-- The value of hexadecimal digits. -/
def hexValue (digits : Text) : Nat :=
  (Binary64.digitsValue? 16 0 digits).getD 0

/-- A small hexadecimal digit. -/
def isCountDigit (c : Char) : Bool :=
  c.isDigit || ('a' ≤ c && c ≤ 'f')

namespace Runs

variable {α : Type}

/-- The run that an entry tells. -/
def ofEntry (value : Text → α) (entry : Text) : Nat × α :=
  let count := entry.takeWhile isCountDigit
  (if count = [] then 1 else hexValue count, value (entry.dropWhile isCountDigit))

/-- The runs of a table. -/
def ofLines (value : Text → α) (lines : List String) : Runs α :=
  lines.flatMap fun line => (Text.splitOn ' ' line.toList).map (ofEntry value)

/-- The value of a code point, and how many code points of its run stand before it. -/
def find? : Runs α → (code : Nat) → Option (α × Nat)
  | [], _ => none
  | (count, value) :: rest, code =>
    if code < count then some (value, code) else find? rest (code - count)

/-- The value of a character. -/
def get? (runs : Runs α) (c : Char) : Option α :=
  (runs.find? c.toNat).map Prod.fst

end Runs

end ExporterAudit.Unicode
