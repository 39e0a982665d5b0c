import ExporterAudit.Text.Basic

/-!
Texts in ASCII letters, digits and hyphens. The ASCII characters of the text come first; after the
last hyphen stand numbers, one for each other character, that tell what to insert next and where.
A number ends with a digit below a threshold, and the thresholds adapt to the numbers before.
-/

namespace ExporterAudit.WebAddress.Punycode

/-- The value of a digit: the letters come before the decimal digits. -/
def digit? (c : Char) : Option Nat :=
  if 'a' ≤ c ∧ c ≤ 'z' then some (c.toNat - 'a'.toNat)
  else if c.isDigit then some (c.toNat - '0'.toNat + 26)
  else none

/-- The number of digits. -/
def base : Nat := 36

/-- The least digit that does not end a number, at a place that counts in steps of the base. -/
def threshold (bias place : Nat) : Nat :=
  if place ≤ bias then 1 else if bias + 26 ≤ place then 26 else place - bias

/-- The bias for the number after one that is spread over `delta`, from thresholds that suit it. -/
def spread (delta steps : Nat) : Nat :=
  if 455 < delta then spread (delta / 35) (steps + base)
  else steps + base * delta / (delta + 38)
termination_by delta
decreasing_by exact Nat.div_lt_self (by omega) (by omega)

/-- The bias after a number for a text of a length; the first number counts less. -/
def adapted (number length : Nat) (first : Bool) : Nat :=
  let damped := if first then number / 700 else number / 2
  spread (damped + damped / length) 0

/-- The greatest number. -/
def greatest : Nat := 0x7FFFFFFF

/-- A text that is being read. -/
structure Reading where
  text : Text
  /-- The latest code point. -/
  code : Nat := 128
  /-- Where the number that is being read began to count. -/
  start : Nat := 0
  /-- The count so far. -/
  index : Nat := 0
  bias : Nat := 72
  /-- What the next digit counts for. -/
  weight : Nat := 1
  /-- The place of the next digit. -/
  place : Nat := base

namespace Reading

/-- Inserts the character that a count stands for: counting goes through all places of the text
with one code point, then with the next. -/
def insert? (reading : Reading) (index : Nat) : Option Reading :=
  let length := reading.text.length + 1
  let code := reading.code + index / length
  let position := index % length
  if code.isValidChar then
    some {
      text := reading.text.take position ++ Char.ofNat code :: reading.text.drop position
      code
      start := position + 1
      index := position + 1
      bias := adapted (index - reading.start) length (reading.start == 0) }
  else
    none

/-- Reads a digit. -/
def step? (reading : Reading) (c : Char) : Option Reading := do
  let digit ← digit? c
  let index := reading.index + digit * reading.weight
  guard (index ≤ greatest)
  let threshold := threshold reading.bias reading.place
  if digit < threshold then
    reading.insert? index
  else
    let weight := reading.weight * (base - threshold)
    guard (weight ≤ greatest)
    return { reading with index, weight, place := reading.place + base }

/-- Whether no number has begun. -/
def isComplete (reading : Reading) : Bool :=
  reading.place == base

end Reading

/-- The ASCII characters of an encoded text, and its digits. -/
def split (encoded : Text) : Text × Text :=
  let reversed := encoded.reverse
  (((reversed.dropWhile (· ≠ '-')).drop 1).reverse, (reversed.takeWhile (· ≠ '-')).reverse)

/-- The text that is encoded. -/
def decode? (encoded : Text) : Option Text := do
  let (text, digits) := split encoded
  guard (text.all (·.toNat < 128))
  let reading ← digits.foldlM Reading.step? { text }
  guard reading.isComplete
  return reading.text

end ExporterAudit.WebAddress.Punycode
