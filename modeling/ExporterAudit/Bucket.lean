import ExporterAudit.Binary64.Arithmetic
import ExporterAudit.Failure

/-!
The bucket of a value. Every octave, the values from one power of two up to the next, is cut into
four buckets of equal width, and a bucket is named by its lower edge. The octave is searched for from
the logarithm of the value, which is rounded: for the greatest numbers of the format it is the
exponent beyond the range, and the search starts at infinity and does not end.
-/

namespace ExporterAudit.Bucket

open Binary64

/-- The number of buckets in an octave. -/
def perOctave : Nat := 4

/-- How far below the power of two of an exponent a value can lie, in parts of `2 ^ 53` of the power,
so that its base-two logarithm rounds to the exponent. Below an exponent the numbers of the format are
`2 ^ (place - 52)` apart, with the place of its highest bit, and half of that times `log 2` are
`2 ^ place * log 2` parts; `709` is this number for the place ten, rounded down. -/
def roundingReach (exponent : Int) : Nat :=
  let place := Nat.log2 (if 0 < exponent then (exponent - 1).toNat else exponent.natAbs)
  709 / 2 ^ (10 - place)

/-- The exponent of the unit. -/
def unitExponent : Int := -1074

/-- The whole part of the rounded base-two logarithm of a magnitude, as an exponent in units: close
below a power of two it is the exponent of this power. -/
def logExponent (units : Nat) : Nat :=
  let next := Nat.log2 units + 1
  if 2 ^ 53 * (2 ^ next - units) ≤ roundingReach (next + unitExponent) * 2 ^ next then next
  else Nat.log2 units

/-- Lowers an exponent until its power of two is not above a magnitude. -/
def lowerExponent (units : Nat) : (exponent : Nat) → Nat
  | 0 => 0
  | exponent + 1 =>
    if units < 2 ^ (exponent + 1) then lowerExponent units exponent else exponent + 1

/-- Raises an exponent while twice its power of two is not above a magnitude. -/
def raiseExponent (units : Nat) (exponent : Nat) : Nat :=
  if h : 2 ^ (exponent + 1) ≤ units then
    raiseExponent units (exponent + 1)
  else
    exponent
termination_by units - exponent
decreasing_by
  have := Nat.lt_two_pow_self (n := exponent + 1)
  omega

/-- The exponent, in units, of the octave that holds a magnitude, found from any guess. -/
def octaveExponent (guess units : Nat) : Nat :=
  raiseExponent units (lowerExponent units guess)

/-- A power of two, in units. -/
def powerOfTwo (exponent : Nat) : Binary64 :=
  ofRatio false (2 ^ exponent) 1

/-- The lower edge of the bucket of a value in the octave that starts at `low`. -/
def lowerEdge (low value : Binary64) : Binary64 :=
  let step := low / ofNat perOctave
  low + step * ((value - low) / step).floor

/-- The bucket of a positive finite value. -/
def ofValue (value : Binary64) : Except Failure Binary64 :=
  match value with
  | .nan | .infinity _ => .error (.invalidBucketValue value)
  | .finite negative units _ _ =>
    if negative ∨ units = 0 then
      .error (.invalidBucketValue value)
    else if powerOfTwo (logExponent units) = .infinity false then
      -- Half of the infinite is infinite, so no halving leads down to the value.
      .error (.endless value)
    else
      .ok (lowerEdge (powerOfTwo (octaveExponent (logExponent units) units)) value)

end ExporterAudit.Bucket
