import ExporterAudit.Text.Basic

/-!
Text measured and ordered in UTF-16 code units: a character beyond the basic plane counts as two
units and sorts by its leading surrogate, so before U+E000 to U+FFFF.
-/

namespace ExporterAudit.Text

/-- The UTF-16 code units of a character. -/
def charUnits (c : Char) : List Nat :=
  let n := c.toNat
  if n < 0x10000 then
    [n]
  else
    [0xD800 + (n - 0x10000) / 0x400, 0xDC00 + (n - 0x10000) % 0x400]

/-- The UTF-16 code units of a text. -/
def units (text : Text) : List Nat :=
  text.flatMap charUnits

def isLeading (unit : Nat) : Bool :=
  0xD800 ≤ unit && unit ≤ 0xDBFF

def isTrailing (unit : Nat) : Bool :=
  0xDC00 ≤ unit && unit ≤ 0xDFFF

/-- The character of a surrogate pair. -/
def pairChar (leading trailing : Nat) : Char :=
  Char.ofNat (0x10000 + (leading - 0xD800) * 0x400 + (trailing - 0xDC00))

/-- The character of a unit without a partner; half of a pair is U+FFFD. -/
def unitChar (unit : Nat) : Char :=
  if isLeading unit || isTrailing unit then Char.ofNat 0xFFFD else Char.ofNat unit

/-- The text of code units. -/
def ofUnits : List Nat → Text
  | [] => []
  | [unit] => [unitChar unit]
  | unit :: next :: rest =>
    if isLeading unit && isTrailing next then
      pairChar unit next :: ofUnits rest
    else
      unitChar unit :: ofUnits (next :: rest)

/-- The number of UTF-16 code units of a text. -/
def unitLength (text : Text) : Nat :=
  (units text).length

/-- Lexicographic order of code unit lists. -/
def unitsLe : List Nat → List Nat → Bool
  | [], _ => true
  | _ :: _, [] => false
  | a :: as, b :: bs => a < b || (a == b && unitsLe as bs)

/-- Order of texts by their UTF-16 code units. -/
def le (a b : Text) : Bool :=
  unitsLe (units a) (units b)

end ExporterAudit.Text
