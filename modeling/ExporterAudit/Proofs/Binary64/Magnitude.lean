import ExporterAudit.Proofs.Binary64.Exact
import Mathlib.Algebra.Order.Field.Power
import Mathlib.Tactic.NormNum

/-!
Arithmetic on numbers that are not negative, by their magnitudes in units. An operation whose exact
result is a magnitude of the format gives that result, and the order of the magnitudes is the order
of the rational numbers that they stand for.
-/

namespace ExporterAudit.Binary64

/-- The exact value of a finite number. -/
def toRat : Binary64 → ℚ
  | .finite negative units _ _ => (signed negative units : ℚ) / (one : ℚ)
  | _ => 0

/-- The number is not negative and has this magnitude. -/
def HasUnits (x : Binary64) (units : Nat) : Prop :=
  ∃ inRange bits, x = .finite false units inRange bits

/-- A magnitude belongs to one number only. Negative zero has none. -/
theorem HasUnits.eq_iff {x y : Binary64} {a b : Nat} (hx : x.HasUnits a) (hy : y.HasUnits b) :
    x = y ↔ a = b := by
  obtain ⟨inRange, bits, rfl⟩ := hx
  obtain ⟨inRange', bits', rfl⟩ := hy
  simp

theorem HasUnits.lt_overflow {x : Binary64} {units : Nat} (hx : x.HasUnits units) :
    units < overflow := by
  obtain ⟨inRange, bits, rfl⟩ := hx
  exact inRange

theorem HasUnits.has53Bits {x : Binary64} {units : Nat} (hx : x.HasUnits units) :
    Has53Bits units := by
  obtain ⟨inRange, bits, rfl⟩ := hx
  exact bits

theorem HasUnits.isFinite {x : Binary64} {units : Nat} (hx : x.HasUnits units) :
    x.isFinite = true := by
  obtain ⟨inRange, bits, rfl⟩ := hx
  rfl

/-! ### Exact operations -/

/-- A quotient that comes out as a magnitude of the format is not rounded. -/
theorem hasUnits_ofRatio {units den : Nat} (hlt : units < overflow) (hbits : Has53Bits units)
    (hden : 0 < den) : (ofRatio false (units * den) den).HasUnits units :=
  ⟨hlt, hbits, ofRatio_mul_eq_finite false hlt hbits hden⟩

theorem hasUnits_ofNat {n : Nat} (hlt : n < 2 ^ 53) : (ofNat n).HasUnits (n * one) :=
  ⟨mul_one_lt_overflow hlt, has53Bits_mul_one hlt, ofNat_eq_finite hlt⟩

/-- Close to zero every count of units is a magnitude of the format. -/
theorem hasUnits_ofRatio_small {units : Nat} (hlt : units < 2 ^ 53) :
    (ofRatio false units 1).HasUnits units := by
  have hbits : Has53Bits units := ⟨units, 0, hlt, by rw [Nat.pow_zero, Nat.mul_one]⟩
  have hrange : units < overflow :=
    (Nat.le_mul_of_pos_right units one_pos).trans_lt (mul_one_lt_overflow hlt)
  exact ⟨hrange, hbits, ofRatio_eq_finite false hrange hbits⟩

/-- Units cancel in a quotient, so it is `one` times as many as the quotient of the counts. -/
theorem HasUnits.div {x y : Binary64} {a b quotient : Nat} (hx : x.HasUnits a) (hy : y.HasUnits b)
    (hpos : 0 < b) (hquotient : a * one = quotient * b) (hlt : quotient < overflow)
    (hbits : Has53Bits quotient) : (x / y).HasUnits quotient := by
  obtain ⟨inRange, bits, rfl⟩ := hx
  obtain ⟨inRange', bits', rfl⟩ := hy
  change (Binary64.div _ _).HasUnits quotient
  simp only [Binary64.div, hpos.ne', ↓reduceIte, Bool.xor_false, hquotient]
  exact hasUnits_ofRatio hlt hbits hpos

/-- A product of counts has the units twice over, hence the factor `one`. -/
theorem HasUnits.mul {x y : Binary64} {a b product : Nat} (hx : x.HasUnits a) (hy : y.HasUnits b)
    (hproduct : a * b = product * one) (hlt : product < overflow) (hbits : Has53Bits product) :
    (x * y).HasUnits product := by
  obtain ⟨inRange, bits, rfl⟩ := hx
  obtain ⟨inRange', bits', rfl⟩ := hy
  change (Binary64.mul _ _).HasUnits product
  simp only [Binary64.mul, Bool.xor_false, hproduct]
  exact hasUnits_ofRatio hlt hbits one_pos

theorem hasUnits_zero : (Binary64.zero false).HasUnits 0 :=
  ⟨overflow_pos, ⟨0, 0, by decide, rfl⟩, rfl⟩

/-- A sum whose exact value is a magnitude of the format. -/
theorem hasUnits_add_of_signed {negative : Bool} {a b units : Nat} {inRange : a < overflow}
    {bits : Has53Bits a} {inRange' : b < overflow} {bits' : Has53Bits b}
    (hsum : signed false a + signed negative b = units) (hlt : units < overflow)
    (hbits : Has53Bits units) :
    (finite false a inRange bits + finite negative b inRange' bits').HasUnits units := by
  rw [add_def]
  simp only [Binary64.add, hsum, Int.natCast_eq_zero, Bool.false_and]
  split
  · next hzero => exact hzero ▸ hasUnits_zero
  · rw [decide_eq_false (Int.not_lt.mpr (Int.natCast_nonneg _)), Int.natAbs_natCast]
    exact ⟨hlt, hbits, ofRatio_eq_finite false hlt hbits⟩

theorem HasUnits.add {x y : Binary64} {a b : Nat} (hx : x.HasUnits a) (hy : y.HasUnits b)
    (hlt : a + b < overflow) (hbits : Has53Bits (a + b)) : (x + y).HasUnits (a + b) := by
  obtain ⟨inRange, bits, rfl⟩ := hx
  obtain ⟨inRange', bits', rfl⟩ := hy
  exact hasUnits_add_of_signed (by simp [signed]) hlt hbits

/-- A difference that is not negative has the magnitudes subtracted, also where it is zero. -/
theorem HasUnits.sub {x y : Binary64} {a b : Nat} (hx : x.HasUnits a) (hy : y.HasUnits b)
    (hle : b ≤ a) (hbits : Has53Bits (a - b)) : (x - y).HasUnits (a - b) := by
  have hlt : a - b < overflow := (Nat.sub_le a b).trans_lt hx.lt_overflow
  obtain ⟨inRange, bits, rfl⟩ := hx
  obtain ⟨inRange', bits', rfl⟩ := hy
  have hdifference : signed false a + signed true b = ((a - b : Nat) : Int) := by
    simp only [signed, Bool.false_eq_true, ↓reduceIte]
    omega
  exact hasUnits_add_of_signed hdifference hlt hbits

/-- The floor leaves out the units below the last whole number. -/
theorem HasUnits.floor {x : Binary64} {units whole : Nat} (hx : x.HasUnits units)
    (hwhole : units / one = whole) (hsmall : whole < 2 ^ 53) : x.floor.HasUnits (whole * one) := by
  obtain ⟨inRange, bits, rfl⟩ := hx
  simp only [Binary64.floor, Bool.false_eq_true, ↓reduceIte, hwhole]
  exact hasUnits_ofNat hsmall

/-! ### Naturals up to `2 ^ 53` -/

/-- Naturals up to `2 ^ 53` are numbers of the format. -/
theorem hasUnits_ofNat_of_le {n : Nat} (hle : n ≤ 2 ^ 53) : (ofNat n).HasUnits (n * one) := by
  have hbits : Has53Bits (n * one) := by
    unfold one
    exact has53Bits_of_le hle 1074
  have hrange : n * one < overflow := by
    have hroom : 2 ^ 54 * one ≤ overflow := by
      unfold one overflow
      exact @two_pow_mul_two_pow_le 54 1074 2098 (by decide)
    exact (Nat.mul_lt_mul_of_pos_right (hle.trans_lt (by decide)) one_pos).trans_le hroom
  exact ⟨hrange, hbits, ofRatio_eq_finite false hrange hbits⟩

/-- A sum of naturals is rounded once. -/
theorem ofNat_add_ofNat {m n : Nat} (hm : m ≤ 2 ^ 53) (hn : n ≤ 2 ^ 53) :
    ofNat m + ofNat n = ofNat (m + n) := by
  obtain ⟨inRange, bits, hx⟩ := hasUnits_ofNat_of_le hm
  obtain ⟨inRange', bits', hy⟩ := hasUnits_ofNat_of_le hn
  have hsum : signed false (m * one) + signed false (n * one) = ((m + n) * one : Nat) := by
    simp only [signed, Bool.false_eq_true, ↓reduceIte, Nat.add_mul, Int.natCast_add]
  rw [hx, hy, add_def]
  simp only [add, hsum, Int.natCast_eq_zero, Bool.false_and, Int.natAbs_natCast,
    decide_eq_false (Int.not_lt.mpr (Int.natCast_nonneg _))]
  split
  · next hzero => rw [ofNat, hzero, ← zero_eq, literal_eq_ofNat, ofNat, Nat.zero_mul]
  · rfl

/-- One more than `2 ^ 53` is rounded to it. -/
theorem ofNat_two_pow_add_one : ofNat (2 ^ 53 + 1) = ofNat (2 ^ 53) := by
  have hround : roundUnits ((2 ^ 53 + 1) * one) 1 = roundUnits (2 ^ 53 * one) 1 := by
    have hbits : Has53Bits (2 ^ 53 * 2 ^ 1074) := has53Bits_of_le (Nat.le_refl _) 1074
    unfold one
    rw [roundUnits_halfway, roundUnits_eq_self hbits]
  simp only [ofNat, ofRatio, hround]

/-! ### The rational numbers behind the magnitudes -/

theorem cast_one_eq : (one : ℚ) = 2 ^ (1074 : ℤ) := by
  unfold one
  rw [Nat.cast_pow]
  norm_num

theorem HasUnits.toRat {x : Binary64} {units : Nat} (hx : x.HasUnits units) :
    x.toRat = units / 2 ^ (1074 : ℤ) := by
  obtain ⟨inRange, bits, rfl⟩ := hx
  rw [Binary64.toRat, cast_one_eq]
  simp [signed]

/-- Rational numbers are compared by comparing the counts of their units. -/
theorem HasUnits.toRat_le_iff {x y : Binary64} {a b : Nat} (hx : x.HasUnits a) (hy : y.HasUnits b) :
    x.toRat ≤ y.toRat ↔ a ≤ b := by
  rw [hx.toRat, hy.toRat, div_le_div_iff_of_pos_right (by positivity), Nat.cast_le]

theorem toRat_ofNat {n : Nat} (hlt : n < 2 ^ 53) : (ofNat n).toRat = n := by
  rw [(hasUnits_ofNat hlt).toRat, Nat.cast_mul, cast_one_eq]
  exact mul_div_cancel_right₀ _ (by positivity)

/-- A finite number that is not below a power of two in the range of the format. -/
theorem exists_hasUnits {x : Binary64} (hfinite : x.isFinite = true) (exponent : Nat)
    (hle : (2 : ℚ) ^ ((exponent : ℤ) - 1074) ≤ x.toRat) :
    ∃ units, x.HasUnits units ∧ 2 ^ exponent ≤ units := by
  cases x with
  | nan => cases hfinite
  | infinity => cases hfinite
  | finite negative units inRange bits =>
    rw [Binary64.toRat, cast_one_eq, zpow_sub₀ two_ne_zero,
      div_le_div_iff_of_pos_right (by positivity), zpow_natCast] at hle
    cases negative with
    | true =>
      have hneg : ((signed true units : Int) : ℚ) ≤ 0 := by simp [signed]
      have hpos : (0 : ℚ) < 2 ^ exponent := by positivity
      exact absurd (hpos.trans_le hle) (not_lt.mpr hneg)
    | false =>
      refine ⟨units, ⟨inRange, bits, rfl⟩, ?_⟩
      simp only [signed, Bool.false_eq_true, ↓reduceIte, Int.cast_natCast] at hle
      exact_mod_cast hle

/-- A finite positive number has a positive magnitude. -/
theorem exists_hasUnits_of_pos {x : Binary64} (hfinite : x.isFinite = true) (hpos : lt 0 x = true) :
    ∃ units, x.HasUnits units ∧ 0 < units := by
  cases x with
  | nan | infinity => cases hfinite
  | finite negative units inRange bits =>
    obtain ⟨rfl, hunits⟩ := zero_lt_finite_iff.mp hpos
    exact ⟨units, ⟨inRange, bits, rfl⟩, hunits⟩

theorem HasUnits.zero_lt_iff {x : Binary64} {units : Nat} (hx : x.HasUnits units) :
    lt 0 x = true ↔ 0 < units := by
  obtain ⟨inRange, bits, rfl⟩ := hx
  simp [zero_lt_finite_iff]

theorem HasUnits.lt_iff {x y : Binary64} {a b : Nat} (hx : x.HasUnits a) (hy : y.HasUnits b) :
    lt x y = true ↔ a < b := by
  obtain ⟨inRange, bits, rfl⟩ := hx
  obtain ⟨inRange', bits', rfl⟩ := hy
  simp only [lt, rank?, signed, Bool.false_eq_true, ↓reduceIte, decide_eq_true_eq]
  exact Int.ofNat_lt

/-- A power of two among the rational numbers, compared with a magnitude by counting units. -/
theorem HasUnits.two_pow_le_iff {x : Binary64} {units : Nat} (hx : x.HasUnits units) (exponent : Nat) :
    (2 : ℚ) ^ ((exponent : ℤ) - 1074) ≤ x.toRat ↔ 2 ^ exponent ≤ units := by
  rw [hx.toRat, zpow_sub₀ two_ne_zero, div_le_div_iff_of_pos_right (by positivity), zpow_natCast]
  exact_mod_cast Iff.rfl

/-- The other end of the octave that starts at a power of two. -/
theorem HasUnits.lt_two_mul_two_pow_iff {x : Binary64} {units : Nat} (hx : x.HasUnits units)
    (exponent : Nat) : x.toRat < 2 * 2 ^ ((exponent : ℤ) - 1074) ↔ units < 2 ^ (exponent + 1) := by
  have hdouble : (2 : ℚ) * 2 ^ ((exponent : ℤ) - 1074) = 2 ^ (((exponent + 1 : ℕ) : ℤ) - 1074) := by
    rw [← zpow_one_add₀ two_ne_zero]
    congr 1
    omega
  rw [hdouble, ← not_le, hx.two_pow_le_iff, Nat.not_le]

theorem HasUnits.toRat_pos_iff {x : Binary64} {units : Nat} (hx : x.HasUnits units) :
    0 < x.toRat ↔ 0 < units := by
  rw [hx.toRat, lt_div_iff₀ (by positivity), zero_mul, Nat.cast_pos]

/-! ### One less than a number -/

theorem gridExponent_one : gridExponent one = 1022 := by
  unfold gridExponent one
  rw [Nat.log2_two_pow]

/-- A magnitude above one lies above it by at least the distance to the next number. -/
theorem two_pow_le_sub_one {units : Nat} (hbits : Has53Bits units) (hlt : one < units) :
    2 ^ 1022 ≤ units - one := by
  have hgrid := grid_dvd hlt.le hbits
  rw [gridExponent_one] at hgrid
  have hone : 2 ^ 1022 ∣ one := by
    unfold one
    exact ⟨2 ^ 52, by rw [← Nat.pow_add]⟩
  exact Nat.le_of_dvd (by omega) (Nat.dvd_sub hgrid hone)

theorem infinity_sub_one (negative : Bool) : infinity negative - 1 = infinity negative := by
  rw [literal_eq_ofNat, ofNat_eq_finite (by decide)]
  rfl

/-- A sign that is asked for survives rounding, so a positive quotient was not given one. -/
theorem not_negative_of_zero_lt_ofRatio {negative : Bool} {num den : Nat}
    (hpos : lt 0 (ofRatio negative num den) = true) : negative = false := by
  unfold ofRatio at hpos
  split at hpos
  · exact (zero_lt_finite_iff.mp hpos).1
  · obtain ⟨place, hplace, hplacePos⟩ := zero_lt_iff.mp hpos
    exact not_negative_of_signed_pos (Option.some.inj hplace ▸ hplacePos)

/-- Without overflow a quotient has the magnitude that its rounding says. -/
theorem hasUnits_of_isFinite_ofRatio {num den : Nat} (hfinite : (ofRatio false num den).isFinite = true) :
    (ofRatio false num den).HasUnits (roundUnits num den) := by
  unfold ofRatio at hfinite ⊢
  split at hfinite
  · next hrange => exact ⟨hrange, roundUnits_has53Bits _ _, dif_pos hrange⟩
  · cases hfinite

/-- One less than a number is not positive, or far above the smallest magnitudes. -/
theorem exists_hasUnits_sub_one {x : Binary64} (hfinite : (x - 1).isFinite = true)
    (hpos : lt 0 (x - 1) = true) : ∃ units, (x - 1).HasUnits units ∧ 2 ^ 1022 ≤ units := by
  have hone : rank? 1 = some (one : Int) := by rw [isInt_one, Int.one_mul]
  have honeFinite : isFinite 1 = true := isInt_one.isFinite (by decide)
  cases x with
  | nan => cases hfinite
  | infinity negative =>
    rw [infinity_sub_one] at hfinite
    cases hfinite
  | finite negative units inRange bits =>
    have hplace : rank? (.finite negative units inRange bits) = some (signed negative units) := rfl
    rcases sub_of_isFinite rfl honeFinite hplace hone with ⟨-, sign, hzero⟩ | ⟨hne, hround⟩
    · rw [hzero] at hpos
      exact absurd (zero_lt_finite_iff.mp hpos).2 (Nat.lt_irrefl 0)
    · rw [hround] at hpos hfinite ⊢
      have hsign := not_negative_of_zero_lt_ofRatio hpos
      have habove : (one : Int) < signed negative units := by
        rw [decide_eq_false_iff_not] at hsign
        omega
      obtain rfl := not_negative_of_signed_pos ((Int.natCast_nonneg one).trans_lt habove)
      have hlt : one < units := by simpa [signed] using habove
      have hdifference : (signed false units - one).natAbs = units - one := by
        simp only [signed, Bool.false_eq_true, ↓reduceIte]
        omega
      rw [hsign, hdifference] at hfinite ⊢
      exact ⟨_, hasUnits_of_isFinite_ofRatio hfinite, two_pow_le_roundUnits (two_pow_le_sub_one bits hlt)⟩

end ExporterAudit.Binary64
