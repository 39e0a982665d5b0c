import ExporterAudit.Binary64.Basic
import ExporterAudit.Text.Blank

/-!
Reading numerals: decimal numerals with a fraction and an exponent, the word `Infinity`, and
binary, octal and hexadecimal integers after `0b`, `0o` and `0x`. Each is the exact value, rounded
once.
-/

namespace ExporterAudit.Binary64

def isDigit (c : Char) : Bool :=
  '0' ≤ c && c ≤ '9'

/-- The value of a digit in a base up to sixteen. -/
def digitValue? (base : Nat) (c : Char) : Option Nat :=
  let value? : Option Nat :=
    if isDigit c then some (c.toNat - '0'.toNat)
    else if 'a' ≤ c && c ≤ 'f' then some (c.toNat - 'a'.toNat + 10)
    else if 'A' ≤ c && c ≤ 'F' then some (c.toNat - 'A'.toNat + 10)
    else none
  value?.filter (· < base)

/-- The value of a list of digits, the first the most significant, after a value already read. -/
def digitsValue? (base : Nat) : (value : Nat) → Text → Option Nat
  | value, [] => some value
  | value, c :: rest => do
    let digit ← digitValue? base c
    digitsValue? base (value * base + digit) rest

/-- The value of a list of decimal digits. -/
def decimalValue (digits : Text) : Nat :=
  digits.foldl (fun value c => value * 10 + (c.toNat - '0'.toNat)) 0

/-- The number `digits * 10 ^ exponent`. Far outside the range the outcome is known without
computing the power: a coefficient below `2 ^ n` times `10 ^ (-400 - n)` is below every positive
number of the format. -/
def ofDecimal (negative : Bool) (digits : Nat) (exponent : Int) : Binary64 :=
  if digits = 0 then
    zero negative
  else if 400 < exponent then
    .infinity negative
  else if exponent < -(400 + digits.log2 : Int) then
    zero negative
  else
    ofRatio negative (digits * one * 10 ^ exponent.toNat) (10 ^ (-exponent).toNat)

/-- An integer with an optional sign; at least one digit. -/
def signedInteger? (text : Text) : Option Int :=
  let (negative, digits) : Bool × Text := match text with
    | '+' :: rest => (false, rest)
    | '-' :: rest => (true, rest)
    | _ => (false, text)
  if digits ≠ [] ∧ digits.all isDigit then
    some (if negative then -(decimalValue digits : Int) else decimalValue digits)
  else
    none

/-- The exponent of a decimal numeral, nothing or `e` and an integer. -/
def exponent? : Text → Option Int
  | [] => some 0
  | c :: rest => if c = 'e' || c = 'E' then signedInteger? rest else none

/-- An unsigned decimal numeral: digits with an optional fraction, or a fraction alone, and an
optional exponent. -/
def unsignedDecimal? (negative : Bool) (text : Text) : Option Binary64 :=
  let whole := text.takeWhile isDigit
  let afterWhole := text.dropWhile isDigit
  let (fraction, rest) : Text × Text := match afterWhole with
    | '.' :: afterPoint => (afterPoint.takeWhile isDigit, afterPoint.dropWhile isDigit)
    | _ => ([], afterWhole)
  if whole = [] ∧ fraction = [] then
    none
  else
    (exponent? rest).map fun exponent =>
      ofDecimal negative (decimalValue (whole ++ fraction)) (exponent - fraction.length)

/-- A decimal numeral, or the word `Infinity`, with an optional sign. -/
def decimal? (text : Text) : Option Binary64 :=
  let (negative, rest) : Bool × Text := match text with
    | '+' :: rest => (false, rest)
    | '-' :: rest => (true, rest)
    | _ => (false, text)
  if rest = "Infinity".toList then some (.infinity negative) else unsignedDecimal? negative rest

/-- The base named by the second character of a numeral that starts with zero. -/
def radixBase? (c : Char) : Option Nat :=
  if c = 'x' || c = 'X' then some 16
  else if c = 'o' || c = 'O' then some 8
  else if c = 'b' || c = 'B' then some 2
  else none

/-- An unsigned integer in the base its first two characters name. -/
def radixInteger? : Text → Option Binary64
  | '0' :: c :: digits => do
    let base ← radixBase? c
    if digits = [] then none else (digitsValue? base 0 digits).map ofNat
  | _ => none

/-- The number a text stands for: blank text is zero, white space around a numeral is ignored. -/
def ofText? (text : Text) : Option Binary64 :=
  match text.trim with
  | [] => some (zero false)
  | numeral => (radixInteger? numeral).or (decimal? numeral)

end ExporterAudit.Binary64
