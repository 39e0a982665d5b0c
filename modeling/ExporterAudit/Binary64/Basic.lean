import ExporterAudit.Binary64.Rounding

/-!
The numbers of the 64-bit binary floating-point format, as exact values: not-a-number, the two
infinities, and sign and magnitude with the magnitude counted in units of `2 ^ -1074`. Order and
numeric equality go through `rank?`, which not-a-number does not have.
-/

namespace ExporterAudit

/-- A 64-bit binary floating-point number. -/
inductive Binary64 where
  | nan
  | infinity (negative : Bool)
  | finite (negative : Bool) (units : Nat)
      (inRange : units < Binary64.overflow) (has53Bits : Binary64.Has53Bits units)
deriving DecidableEq

namespace Binary64

/-- The quotient of two naturals, counted in units, rounded into the format. -/
def ofRatio (negative : Bool) (num den : Nat) : Binary64 :=
  if h : roundUnits num den < overflow then
    .finite negative (roundUnits num den) h (roundUnits_has53Bits num den)
  else
    .infinity negative

/-- The number zero, with either sign. -/
def zero (negative : Bool) : Binary64 :=
  .finite negative 0 overflow_pos ⟨0, 0, by decide, rfl⟩

/-- A natural number, rounded. -/
def ofNat (n : Nat) : Binary64 :=
  ofRatio false (n * one) 1

instance (n : Nat) : OfNat Binary64 n := ⟨ofNat n⟩

instance : Inhabited Binary64 := ⟨.nan⟩

def isFinite : Binary64 → Bool
  | .finite .. => true
  | _ => false

/-- A magnitude with its sign. -/
def signed (negative : Bool) (units : Nat) : Int :=
  if negative then -(units : Int) else units

/-- The place of a number on the line, in units; the infinities stand just beyond the finite
range, the two zeros share a place, and not-a-number has none. -/
def rank? : Binary64 → Option Int
  | .nan => none
  | .infinity negative => some (signed negative overflow)
  | .finite negative units _ _ => some (signed negative units)

/-- Numeric equality: the two zeros are equal, not-a-number equals nothing. -/
def equals (a b : Binary64) : Bool :=
  match a.rank?, b.rank? with
  | some x, some y => x == y
  | _, _ => false

/-- Strict numeric order; false where not-a-number takes part. -/
def lt (a b : Binary64) : Bool :=
  match a.rank?, b.rank? with
  | some x, some y => x < y
  | _, _ => false

/-- Numeric order; false where not-a-number takes part. -/
def le (a b : Binary64) : Bool :=
  match a.rank?, b.rank? with
  | some x, some y => x ≤ y
  | _, _ => false

/-- The natural number that a number is. -/
def toNat? : Binary64 → Option Nat
  | .finite negative units _ _ =>
    if units % one = 0 ∧ (!negative ∨ units = 0) then some (units / one) else none
  | _ => none

/-- Whether a number is finite and has no fraction. -/
def isInteger : Binary64 → Bool
  | .finite _ units _ _ => units % one == 0
  | _ => false

end Binary64

end ExporterAudit
