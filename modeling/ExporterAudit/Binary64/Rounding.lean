/-!
Rounding to the 64-bit binary floating-point grid, on natural numbers. A magnitude is counted in
units of `2 ^ -1074`, the smallest positive number of the format, so every finite magnitude is a
natural number of units with at most 53 significant bits.

Main statement: rounding a quotient gives 53 significant bits at most.
-/

namespace ExporterAudit.Binary64

/-- Powers of naturals are the core library's, also where other instances are in scope. -/
@[default_instance 20000]
instance (priority := 2000) naturalPower : Pow Nat Nat := instPowNat

/-- The number one, in units. -/
@[irreducible]
def one : Nat := 2 ^ 1074

/-- The first magnitude beyond the finite range, in units. -/
@[irreducible]
def overflow : Nat := 2 ^ 2098

theorem one_pos : 0 < one := by unfold one; apply Nat.two_pow_pos

theorem overflow_pos : 0 < overflow := by unfold overflow; apply Nat.two_pow_pos

/-- At most 53 significant bits. -/
def Has53Bits (units : Nat) : Prop :=
  ∃ significand exponent, significand < 2 ^ 53 ∧ units = significand * 2 ^ exponent

/-- Natural numbers below `2 ^ 53` are numbers of the format. -/
theorem has53Bits_mul_one {n : Nat} (h : n < 2 ^ 53) : Has53Bits (n * one) :=
  ⟨n, 1074, h, by unfold one; rfl⟩

theorem two_pow_mul_two_pow_le {a b c : Nat} (h : a + b ≤ c) : 2 ^ a * 2 ^ b ≤ 2 ^ c := by
  rw [← Nat.pow_add]
  exact Nat.pow_le_pow_right (by decide) h

theorem mul_one_lt_overflow {n : Nat} (h : n < 2 ^ 53) : n * one < overflow := by
  have hle : 2 ^ 53 * one ≤ overflow := by
    unfold one overflow
    exact @two_pow_mul_two_pow_le 53 1074 2098 (by decide)
  exact Nat.lt_of_lt_of_le (Nat.mul_lt_mul_of_pos_right h one_pos) hle

/-- The nearest natural number to a quotient, of two nearest ones the even one. -/
def roundDiv (num den : Nat) : Nat :=
  let quotient := num / den
  let remainder := num % den
  if 2 * remainder < den then
    quotient
  else if 2 * remainder = den then
    quotient + quotient % 2
  else
    quotient + 1

/-- The exponent of the grid on which a quotient of this size is rounded. -/
def gridExponent (quotient : Nat) : Nat :=
  Nat.log2 quotient - 52

/-- A quotient rounded to 53 significant bits, a tie going to the even significand. -/
def roundUnits (num den : Nat) : Nat :=
  let grid := 2 ^ gridExponent (num / den)
  roundDiv num (den * grid) * grid

/-- Rounding moves a quotient up by one at most. -/
theorem roundDiv_le_succ (num den : Nat) : roundDiv num den ≤ num / den + 1 := by
  unfold roundDiv
  have : num / den % 2 ≤ 1 := by omega
  grind

/-- The grid is as coarse as it takes for 53 bits to be left of a quotient. -/
theorem div_gridExponent_lt (quotient : Nat) : quotient / 2 ^ gridExponent quotient < 2 ^ 53 := by
  rw [Nat.div_lt_iff_lt_mul (Nat.two_pow_pos _), ← Nat.pow_add]
  calc quotient < 2 ^ (quotient.log2 + 1) := Nat.lt_log2_self
    _ ≤ 2 ^ (53 + gridExponent quotient) :=
      Nat.pow_le_pow_right (by decide) (by unfold gridExponent; omega)

/-- A significand of exactly `2 ^ 53` counts too, since it is the double of one with 53 bits. -/
theorem has53Bits_of_le {significand : Nat} (h : significand ≤ 2 ^ 53) (exponent : Nat) :
    Has53Bits (significand * 2 ^ exponent) := by
  by_cases hlt : significand < 2 ^ 53
  · exact ⟨significand, exponent, hlt, rfl⟩
  · refine ⟨2 ^ 52, exponent + 1, by decide, ?_⟩
    have heq : significand = 2 ^ 53 := by omega
    rw [heq, Nat.pow_succ 2 exponent, Nat.pow_succ 2 52, Nat.mul_assoc, Nat.mul_comm 2]

/-- Rounding a quotient leaves at most 53 significant bits. -/
theorem roundUnits_has53Bits (num den : Nat) : Has53Bits (roundUnits num den) := by
  refine has53Bits_of_le ?_ _
  have hround := roundDiv_le_succ num (den * 2 ^ gridExponent (num / den))
  have hsmall := div_gridExponent_lt (num / den)
  rw [Nat.div_div_eq_div_mul] at hsmall
  omega

end ExporterAudit.Binary64
