import ExporterAudit.Binary64.Arithmetic
import Mathlib.Algebra.Order.Ring.Int

/-!
Where arithmetic of the 64-bit format is exact. Rounding keeps every number of the format, never
passes one and never reaches zero from a positive number. So integers below `2 ^ 53` add and
subtract exactly, and a difference of finite numbers is zero only for equal ones. Apart from the
negative zero, a number has one sum with an integer, whichever zero stands for the integer zero.
-/

namespace ExporterAudit.Binary64

/-! ### Rounding -/

/-- What is written with 53 bits on a grid lies on a grid that is no coarser. -/
private theorem gridExponent_le {n significand exponent : Nat} (hbits : significand < 2 ^ 53)
    (hle : n ≤ significand * 2 ^ exponent) : gridExponent n ≤ exponent := by
  unfold gridExponent
  by_cases hzero : n = 0
  · simp [hzero]
  · have hlt : n < 2 ^ (53 + exponent) := by
      rw [Nat.pow_add]
      exact hle.trans_lt (Nat.mul_lt_mul_of_pos_right hbits (Nat.two_pow_pos _))
    have hlog := (Nat.log2_lt hzero).mpr hlt
    omega

/-- A magnitude of the format lies on the grid of every smaller number. -/
theorem grid_dvd {n units : Nat} (hle : n ≤ units) (hbits : Has53Bits units) :
    2 ^ gridExponent n ∣ units := by
  obtain ⟨significand, exponent, hlt, rfl⟩ := hbits
  exact (Nat.pow_dvd_pow 2 (gridExponent_le hlt hle)).mul_left significand

private theorem roundDiv_mul_self (quotient : Nat) {den : Nat} (hden : 0 < den) :
    roundDiv (quotient * den) den = quotient := by
  simp [roundDiv, Nat.mul_div_cancel _ hden, hden]

/-- Rounding does not pass a whole number on the way up. -/
private theorem roundDiv_le {num den bound : Nat} (hden : 0 < den) (hle : num ≤ bound * den) :
    roundDiv num den ≤ bound := by
  rcases hle.eq_or_lt with rfl | hlt
  · exact (roundDiv_mul_self bound hden).le
  · have hquotient := (Nat.div_lt_iff_lt_mul hden).mpr hlt
    have hround := roundDiv_le_succ num den
    omega

private theorem le_roundDiv (num den : Nat) : num / den ≤ roundDiv num den := by
  unfold roundDiv
  grind

private theorem roundUnits_one (n : Nat) :
    roundUnits n 1 = roundDiv n (2 ^ gridExponent n) * 2 ^ gridExponent n := by
  simp only [roundUnits, Nat.div_one, Nat.one_mul]

/-- Rounding keeps a quotient that is a magnitude of the format. -/
theorem roundUnits_mul_self {units den : Nat} (hbits : Has53Bits units) (hden : 0 < den) :
    roundUnits (units * den) den = units := by
  obtain ⟨quotient, hquotient⟩ := grid_dvd le_rfl hbits
  rw [Nat.mul_comm] at hquotient
  have hscaled : units * den = quotient * (den * 2 ^ gridExponent units) := by
    nth_rewrite 1 [hquotient]
    rw [Nat.mul_assoc, Nat.mul_comm (2 ^ gridExponent units)]
  simp only [roundUnits, Nat.mul_div_cancel _ hden]
  rw [hscaled, roundDiv_mul_self quotient (Nat.mul_pos hden (Nat.two_pow_pos _)), ← hquotient]

/-- Rounding keeps a magnitude of the format. -/
theorem roundUnits_eq_self {units : Nat} (hbits : Has53Bits units) : roundUnits units 1 = units := by
  simpa using roundUnits_mul_self hbits Nat.one_pos

/-- Rounding does not pass a magnitude of the format. -/
theorem roundUnits_le {n units : Nat} (hle : n ≤ units) (hbits : Has53Bits units) :
    roundUnits n 1 ≤ units := by
  obtain ⟨bound, hbound⟩ := grid_dvd hle hbits
  rw [Nat.mul_comm] at hbound
  rw [roundUnits_one, hbound]
  exact Nat.mul_le_mul_right _ (roundDiv_le (Nat.two_pow_pos _) (hbound ▸ hle))

/-- Rounding does not fall below a power of two. -/
theorem two_pow_le_roundUnits {n exponent : Nat} (hle : 2 ^ exponent ≤ n) :
    2 ^ exponent ≤ roundUnits n 1 := by
  rw [roundUnits_one]
  have hpos : 0 < n := (Nat.two_pow_pos exponent).trans_le hle
  have hgrid : 2 ^ gridExponent n ≤ n :=
    (Nat.pow_le_pow_right (by decide) (Nat.sub_le _ _)).trans (Nat.log2_self_le hpos.ne')
  rcases Nat.le_total exponent (gridExponent n) with hfine | hcoarse
  · have hquotient := Nat.div_pos hgrid (Nat.two_pow_pos _)
    calc 2 ^ exponent ≤ 2 ^ gridExponent n := Nat.pow_le_pow_right (by decide) hfine
      _ ≤ roundDiv n (2 ^ gridExponent n) * 2 ^ gridExponent n :=
        Nat.le_mul_of_pos_left _ (hquotient.trans_le (le_roundDiv _ _))
  · obtain ⟨rest, rfl⟩ := Nat.exists_eq_add_of_le' hcoarse
    rw [Nat.pow_add] at hle ⊢
    have hquotient := (Nat.le_div_iff_mul_le (Nat.two_pow_pos _)).mpr hle
    exact Nat.mul_le_mul_right _ (hquotient.trans (le_roundDiv _ _))

/-- A positive number of units never rounds to zero. -/
theorem roundUnits_pos {n : Nat} (hpos : 0 < n) : 0 < roundUnits n 1 :=
  two_pow_le_roundUnits (show 2 ^ 0 ≤ n from hpos)

/-- Halfway from a significand of `2 ^ 53` to the next one, rounding stays with the even one. -/
theorem roundUnits_halfway (exponent : Nat) :
    roundUnits ((2 ^ 53 + 1) * 2 ^ exponent) 1 = 2 ^ 53 * 2 ^ exponent := by
  have hpos := Nat.two_pow_pos exponent
  have hlog : Nat.log2 ((2 ^ 53 + 1) * 2 ^ exponent) = 53 + exponent := by
    refine (Nat.log2_eq_iff (by omega)).mpr ⟨?_, ?_⟩
    · rw [Nat.pow_add]
      exact Nat.mul_le_mul_right _ (by decide)
    · rw [Nat.add_right_comm, Nat.pow_add]
      exact Nat.mul_lt_mul_of_pos_right (by decide) hpos
  have hgrid : 2 ^ gridExponent ((2 ^ 53 + 1) * 2 ^ exponent) = 2 * 2 ^ exponent := by
    rw [gridExponent, hlog, show 53 + exponent - 52 = exponent + 1 by omega, Nat.pow_succ']
  have hhalf : roundDiv ((2 ^ 53 + 1) * 2 ^ exponent) (2 * 2 ^ exponent) = 2 ^ 52 := by
    have hquotient : (2 ^ 53 + 1) * 2 ^ exponent / (2 * 2 ^ exponent) = 2 ^ 52 :=
      Nat.mul_div_mul_right _ _ hpos
    have hremainder : (2 ^ 53 + 1) * 2 ^ exponent % (2 * 2 ^ exponent) = 2 ^ exponent := by
      rw [Nat.mul_mod_mul_right, show (2 ^ 53 + 1) % 2 = 1 by decide, Nat.one_mul]
    simp only [roundDiv, hquotient, hremainder, Nat.lt_irrefl, ↓reduceIte]
    decide
  rw [roundUnits_one, hgrid, hhalf, ← Nat.mul_assoc, ← Nat.pow_succ]

/-- A number of the format stays as it is when it is rounded as a quotient. -/
theorem ofRatio_mul_eq_finite (negative : Bool) {units den : Nat} (hlt : units < overflow)
    (hbits : Has53Bits units) (hden : 0 < den) :
    ofRatio negative (units * den) den = .finite negative units hlt hbits := by
  simp only [ofRatio, roundUnits_mul_self hbits hden, hlt, ↓reduceDIte]

theorem ofRatio_eq_finite (negative : Bool) {units : Nat} (hlt : units < overflow)
    (hbits : Has53Bits units) : ofRatio negative units 1 = .finite negative units hlt hbits := by
  simp only [ofRatio, roundUnits_eq_self hbits, hlt, ↓reduceDIte]

/-! ### Numeric equality -/

/-- Equality of numbers is equality of ranks, so the two zeros are equal and not-a-number is equal
to nothing. -/
theorem equals_iff {a b : Binary64} : a.equals b = true ↔ a.rank? = b.rank? ∧ a.rank? ≠ none := by
  unfold equals
  cases a.rank? <;> cases b.rank? <;> simp

theorem equals_comm (a b : Binary64) : a.equals b = b.equals a := by
  rw [Bool.eq_iff_iff, equals_iff, equals_iff]
  constructor <;> rintro ⟨hrank, hsome⟩ <;> exact ⟨hrank.symm, hrank ▸ hsome⟩

theorem equals_trans {a b c : Binary64} (hab : a.equals b = true) (hbc : b.equals c = true) :
    a.equals c = true := by
  rw [equals_iff] at *
  exact ⟨hab.1.trans hbc.1, hab.2⟩

/-- Only not-a-number differs from itself. -/
theorem equals_self {a : Binary64} (hnumber : a ≠ .nan) : a.equals a = true := by
  cases a with
  | nan => exact absurd rfl hnumber
  | infinity | finite => simp [equals, rank?]

theorem equals_self_of_isFinite {a : Binary64} (hfinite : a.isFinite = true) : a.equals a = true := by
  apply equals_self
  rintro rfl
  cases hfinite

/-- What is not above a number and not equal to it is below it. -/
theorem lt_of_le_of_not_equals {a b : Binary64} (hle : le a b = true) (hne : ¬ b.equals a = true) :
    lt a b = true := by
  unfold le at hle
  unfold equals at hne
  unfold lt
  cases ha : a.rank? <;> cases hb : b.rank? <;> simp_all
  omega

theorem exists_rank?_of_isFinite {a : Binary64} (hfinite : a.isFinite = true) :
    ∃ rank, a.rank? = some rank := by
  cases a with
  | finite negative units => exact ⟨_, rfl⟩
  | nan => cases hfinite
  | infinity => cases hfinite

/-! ### Differences of finite numbers -/

theorem signed_not (negative : Bool) (units : Nat) :
    signed (!negative) units = -signed negative units := by
  cases negative <;> simp [signed]

/-- A sum is taken apart into its sign and its magnitude without loss. -/
private theorem signed_natAbs (sum : Int) : signed (decide (sum < 0)) sum.natAbs = sum := by
  by_cases hneg : sum < 0
  · simp only [signed, hneg, decide_true, ↓reduceIte, Int.ofNat_natAbs_of_nonpos hneg.le, neg_neg]
  · simp only [signed, hneg, decide_false, Bool.false_eq_true, ↓reduceIte]
    exact Int.natAbs_of_nonneg (not_lt.mp hneg)

theorem add_def (x y : Binary64) : x + y = add x y := rfl

theorem sub_def (x y : Binary64) : x - y = x + neg y := rfl

theorem isFinite_neg (x : Binary64) : (neg x).isFinite = x.isFinite := by
  cases x <;> rfl

/-- A sign turned round mirrors the place in the order. -/
theorem rank?_neg {x : Binary64} {a : Int} (ha : x.rank? = some a) : (neg x).rank? = some (-a) := by
  cases x with
  | nan => cases ha
  | infinity negative =>
    simp only [rank?, Option.some.injEq] at ha
    simp only [neg, rank?, signed_not, ha]
  | finite negative units =>
    simp only [rank?, Option.some.injEq] at ha
    simp only [neg, rank?, signed_not, ha]

/-- A sum of finite numbers is the sum of their ranks, rounded. -/
theorem add_of_isFinite {x y : Binary64} {a b : Int} (hx : x.isFinite = true)
    (hy : y.isFinite = true) (ha : x.rank? = some a) (hb : y.rank? = some b) :
    (a + b = 0 ∧ ∃ negative, x + y = zero negative) ∨
      (a + b ≠ 0 ∧ x + y = ofRatio (a + b < 0) (a + b).natAbs 1) := by
  cases x with
  | nan => cases hx
  | infinity => cases hx
  | finite negative units inRange bits =>
    cases y with
    | nan => cases hy
    | infinity => cases hy
    | finite negative' units' inRange' bits' =>
      simp only [rank?, Option.some.injEq] at ha hb
      simp only [add_def, add, ha, hb]
      by_cases hzero : a + b = 0
      · exact .inl ⟨hzero, _, if_pos hzero⟩
      · exact .inr ⟨hzero, if_neg hzero⟩

/-- A difference of finite numbers is the difference of their ranks, rounded. -/
theorem sub_of_isFinite {x y : Binary64} {a b : Int} (hx : x.isFinite = true)
    (hy : y.isFinite = true) (ha : x.rank? = some a) (hb : y.rank? = some b) :
    (a - b = 0 ∧ ∃ negative, x - y = zero negative) ∨
      (a - b ≠ 0 ∧ x - y = ofRatio (a - b < 0) (a - b).natAbs 1) := by
  rw [sub_def, Int.sub_eq_add_neg]
  exact add_of_isFinite hx ((isFinite_neg y).trans hy) ha (rank?_neg hb)

theorem literal_eq_ofNat (n : Nat) : (OfNat.ofNat n : Binary64) = ofNat n := rfl

theorem zero_eq : (0 : Binary64) = zero false := by
  rw [literal_eq_ofNat, ofNat, Nat.zero_mul]
  exact ofRatio_eq_finite false overflow_pos ⟨0, 0, by decide, rfl⟩

/-- Rounding never reaches zero from a positive number of units, since one unit is the smallest
number. -/
theorem ofRatio_ne_zero {negative : Bool} {n : Nat} (hpos : 0 < n) :
    (ofRatio negative n 1).equals 0 = false := by
  rw [zero_eq]
  have hround := roundUnits_pos hpos
  have hoverflow := overflow_pos
  unfold ofRatio
  split <;> cases negative <;> simp [equals, rank?, zero, signed] <;> omega

/-- A difference of finite numbers is zero only for equal ones, because of the subnormal
numbers. -/
theorem sub_equals_zero_iff {x y : Binary64} (hx : x.isFinite = true) (hy : y.isFinite = true) :
    (x - y).equals 0 = true ↔ x.equals y = true := by
  obtain ⟨a, ha⟩ := exists_rank?_of_isFinite hx
  obtain ⟨b, hb⟩ := exists_rank?_of_isFinite hy
  have hequals : x.equals y = true ↔ a = b := by simp [equals, ha, hb]
  rw [hequals]
  rcases sub_of_isFinite hx hy ha hb with ⟨hequal, negative, hzero⟩ | ⟨hdiffers, hround⟩
  · rw [hzero, zero_eq]
    have hsame : a = b := by omega
    cases negative <;> simp [equals, rank?, zero, signed, hsame]
  · rw [hround, ofRatio_ne_zero (Int.natAbs_pos.mpr hdiffers)]
    simpa using fun hsame : a = b => hdiffers (by omega)

/-! ### Integers -/

/-- The number is an integer; either zero is the integer zero. -/
def IsInt (x : Binary64) (n : Int) : Prop :=
  x.rank? = some (n * one)

instance (x : Binary64) (n : Int) : Decidable (x.IsInt n) :=
  inferInstanceAs (Decidable (_ = _))

theorem ofNat_eq_finite {n : Nat} (hlt : n < 2 ^ 53) :
    ofNat n = .finite false (n * one) (mul_one_lt_overflow hlt) (has53Bits_mul_one hlt) := by
  unfold ofNat
  exact ofRatio_eq_finite false _ _

theorem isInt_ofNat {n : Nat} (hlt : n < 2 ^ 53) : (ofNat n).IsInt n := by
  rw [ofNat_eq_finite hlt]
  simp [IsInt, rank?, signed]

theorem isInt_zero : (0 : Binary64).IsInt 0 :=
  isInt_ofNat (n := 0) (by decide)

theorem IsInt.isFinite {x : Binary64} {n : Int} (h : x.IsInt n) (hlt : n.natAbs < 2 ^ 53) :
    x.isFinite = true := by
  cases x with
  | nan => cases h
  | finite => rfl
  | infinity negative =>
    have hsmall := mul_one_lt_overflow hlt
    have habs : (signed negative overflow).natAbs = (n * one).natAbs :=
      congrArg Int.natAbs (Option.some.inj h)
    rw [Int.natAbs_mul, Int.natAbs_natCast] at habs
    cases negative <;> simp [signed] at habs <;> omega

/-- Integers are told apart by their numbers, whichever zero stands for zero. -/
theorem IsInt.equals_iff {x y : Binary64} {m n : Int} (hx : x.IsInt m) (hy : y.IsInt n) :
    x.equals y = true ↔ m = n := by
  have hone : one ≠ 0 := one_pos.ne'
  unfold IsInt at hx hy
  simp [equals, hx, hy, hone]

theorem IsInt.unique {x : Binary64} {m n : Int} (hm : x.IsInt m) (hn : x.IsInt n) : m = n := by
  have hscaled : m * one = n * one := Option.some.inj (hm.symm.trans hn)
  exact Int.eq_of_mul_eq_mul_right (Int.natCast_ne_zero.mpr one_pos.ne') hscaled

/-- A positive integer is one number only. -/
theorem IsInt.eq_ofNat {x : Binary64} {n : Nat} (h : x.IsInt n) (hpos : 0 < n) (hlt : n < 2 ^ 53) :
    x = ofNat n := by
  rw [ofNat_eq_finite hlt]
  have hfinite := h.isFinite (by simpa using hlt)
  have hunits : 0 < n * one := Nat.mul_pos hpos one_pos
  cases x with
  | nan => cases hfinite
  | infinity => cases hfinite
  | finite negative units =>
    have hrank : signed negative units = ((n * one : Nat) : Int) := by
      rw [Int.natCast_mul]
      exact Option.some.inj h
    cases negative with
    | true => simp only [signed, ↓reduceIte] at hrank; omega
    | false =>
      simp only [signed, Bool.false_eq_true, ↓reduceIte, Int.natCast_inj] at hrank
      simp only [hrank]

/-- The integer is a number of the format. -/
def Representable (n : Int) : Prop :=
  ∃ x : Binary64, x.isFinite = true ∧ x.IsInt n

theorem representable_of_natAbs_lt {n : Int} (hlt : n.natAbs < 2 ^ 53) : Representable n := by
  refine ⟨.finite (decide (n * one < 0)) (n * one : Int).natAbs ?_ ?_, rfl,
    congrArg some (signed_natAbs _)⟩
  all_goals rw [Int.natAbs_mul, Int.natAbs_natCast]
  · exact mul_one_lt_overflow hlt
  · exact has53Bits_mul_one hlt

/-- A sum of integers that is a number of the format is not rounded. -/
theorem IsInt.add_of_representable {x y : Binary64} {m n : Int} (hx : x.IsInt m) (hy : y.IsInt n)
    (hxfinite : x.isFinite = true) (hyfinite : y.isFinite = true) (hsum : Representable (m + n)) :
    (x + y).isFinite = true ∧ (x + y).IsInt (m + n) := by
  rcases add_of_isFinite hxfinite hyfinite hx hy with ⟨hcancel, negative, hzero⟩ | ⟨_, hround⟩
  · rw [← Int.add_mul] at hcancel
    rw [hzero, IsInt, hcancel]
    cases negative <;> exact ⟨rfl, rfl⟩
  · obtain ⟨z, hfinite, hz⟩ := hsum
    cases z with
    | nan => cases hfinite
    | infinity => cases hfinite
    | finite negative units inRange bits =>
      have hrank : signed negative units = m * one + n * one :=
        (Option.some.inj hz).trans (Int.add_mul _ _ _)
      have hunits : (m * one + n * one : Int).natAbs = units := by
        rw [← hrank]
        cases negative <;> simp [signed]
      rw [hround]
      simp only [hunits, ofRatio_eq_finite _ inRange bits]
      refine ⟨rfl, ?_⟩
      rw [IsInt, rank?, ← hunits, signed_natAbs, Int.add_mul]

/-- Sums of integers are exact as long as the sum has 53 bits. -/
theorem IsInt.add {x y : Binary64} {m n : Int} (hx : x.IsInt m) (hy : y.IsInt n)
    (hm : m.natAbs < 2 ^ 53) (hn : n.natAbs < 2 ^ 53) (hsum : (m + n).natAbs < 2 ^ 53) :
    (x + y).IsInt (m + n) :=
  (hx.add_of_representable hy (hx.isFinite hm) (hy.isFinite hn) (representable_of_natAbs_lt hsum)).2

theorem IsInt.neg {x : Binary64} {n : Int} (h : x.IsInt n) : (neg x).IsInt (-n) := by
  rw [IsInt, rank?_neg h, Int.neg_mul]

/-- The difference may exceed 53 bits if it is still a number of the format, such as a large even
one. -/
theorem IsInt.sub_of_representable {x y : Binary64} {m n : Int} (hx : x.IsInt m) (hy : y.IsInt n)
    (hxfinite : x.isFinite = true) (hyfinite : y.isFinite = true) (hdiff : Representable (m - n)) :
    (x - y).isFinite = true ∧ (x - y).IsInt (m - n) := by
  rw [sub_def, Int.sub_eq_add_neg]
  rw [Int.sub_eq_add_neg] at hdiff
  exact hx.add_of_representable hy.neg hxfinite ((isFinite_neg y).trans hyfinite) hdiff

/-- Differences of integers are exact as long as the difference has 53 bits. -/
theorem IsInt.sub {x y : Binary64} {m n : Int} (hx : x.IsInt m) (hy : y.IsInt n)
    (hm : m.natAbs < 2 ^ 53) (hn : n.natAbs < 2 ^ 53) (hdiff : (m - n).natAbs < 2 ^ 53) :
    (x - y).IsInt (m - n) :=
  (hx.sub_of_representable hy (hx.isFinite hm) (hy.isFinite hn) (representable_of_natAbs_lt hdiff)).2

theorem zero_lt_finite_iff {negative : Bool} {units : Nat} {inRange : units < overflow}
    {bits : Has53Bits units} :
    lt 0 (.finite negative units inRange bits) = true ↔ negative = false ∧ 0 < units := by
  unfold lt
  rw [isInt_zero, Int.zero_mul]
  simp only [rank?, decide_eq_true_eq]
  cases negative with
  | true => simp [signed]
  | false => simp [signed]

theorem isInt_one : (1 : Binary64).IsInt 1 :=
  isInt_ofNat (n := 1) (by decide)

theorem IsInt.lt_iff {x y : Binary64} {m n : Int} (hx : x.IsInt m) (hy : y.IsInt n) :
    lt x y = true ↔ m < n := by
  have hone : (0 : Int) < one := Int.natCast_pos.mpr one_pos
  unfold IsInt at hx hy
  simp only [lt, hx, hy, decide_eq_true_eq]
  exact mul_lt_mul_iff_of_pos_right hone

/-! ### Signs -/

/-- In the order, not-a-number stands nowhere and negative zero at zero. -/
theorem zero_le_iff {x : Binary64} : le 0 x = true ↔ ∃ a, x.rank? = some a ∧ 0 ≤ a := by
  unfold le
  rw [isInt_zero, Int.zero_mul]
  cases x.rank? <;> simp

theorem zero_lt_iff {x : Binary64} : lt 0 x = true ↔ ∃ a, x.rank? = some a ∧ 0 < a := by
  unfold lt
  rw [isInt_zero, Int.zero_mul]
  cases x.rank? <;> simp

theorem zero_le_of_lt {x : Binary64} (hpos : lt 0 x = true) : le 0 x = true := by
  obtain ⟨a, ha, hlt⟩ := zero_lt_iff.mp hpos
  exact zero_le_iff.mpr ⟨a, ha, hlt.le⟩

theorem zero_lt_infinity : lt 0 (infinity false) = true :=
  zero_lt_iff.mpr ⟨overflow, rfl, Int.natCast_pos.mpr overflow_pos⟩

/-- A positive count of units stays positive under rounding. -/
theorem zero_lt_ofRatio {n : Nat} (hpos : 0 < n) : lt 0 (ofRatio false n 1) = true := by
  unfold ofRatio
  split
  · exact zero_lt_finite_iff.mpr ⟨rfl, roundUnits_pos hpos⟩
  · exact zero_lt_infinity

/-- A number less a smaller one is positive, rounded or not. -/
theorem zero_lt_sub {x y : Binary64} (hx : x.isFinite = true) (hy : y.isFinite = true)
    (hlt : lt y x = true) : lt 0 (x - y) = true := by
  obtain ⟨a, ha⟩ := exists_rank?_of_isFinite hx
  obtain ⟨b, hb⟩ := exists_rank?_of_isFinite hy
  have hbelow : b < a := by simpa [lt, ha, hb] using hlt
  rcases sub_of_isFinite hx hy ha hb with ⟨hcancel, -⟩ | ⟨-, hround⟩
  · omega
  · rw [hround, decide_eq_false (by omega)]
    exact zero_lt_ofRatio (by omega)

/-- Adding a positive number to one that is not negative stays positive, also beyond the finite
range. -/
theorem zero_lt_add {x y : Binary64} (hx : le 0 x = true) (hy : lt 0 y = true) :
    lt 0 (x + y) = true := by
  obtain ⟨a, ha, hnonneg⟩ := zero_le_iff.mp hx
  obtain ⟨b, hb, hpos⟩ := zero_lt_iff.mp hy
  have hinfinite {negative : Bool} {c : Int} (hrank : (infinity negative).rank? = some c)
      (hc : 0 ≤ c) : negative = false := by
    have hoverflow := overflow_pos
    cases negative with
    | false => rfl
    | true =>
      simp only [rank?, signed, ↓reduceIte, Option.some.injEq] at hrank
      omega
  cases x with
  | nan => cases ha
  | infinity negative =>
    obtain rfl := hinfinite ha hnonneg
    cases y with
    | nan => cases hb
    | infinity negative =>
      obtain rfl := hinfinite hb hpos.le
      exact hy
    | finite => exact zero_lt_infinity
  | finite =>
    cases y with
    | nan => cases hb
    | infinity negative => exact hy
    | finite =>
      rcases add_of_isFinite rfl rfl ha hb with ⟨hcancel, -⟩ | ⟨-, hround⟩
      · omega
      · rw [hround, decide_eq_false (by omega)]
        exact zero_lt_ofRatio (by omega)

/-- One less than a finite number above one is positive, and still finite. -/
theorem sub_one_of_one_lt {x : Binary64} (hfinite : x.isFinite = true) (hlt : lt 1 x = true) :
    (x - 1).isFinite = true ∧ lt 0 (x - 1) = true := by
  have hone : rank? 1 = some (one : Int) := by
    rw [isInt_one, Int.one_mul]
  have honeFinite : isFinite 1 = true := isInt_one.isFinite (by decide)
  refine ⟨?_, zero_lt_sub hfinite honeFinite hlt⟩
  cases x with
  | nan => cases hfinite
  | infinity => cases hfinite
  | finite negative units inRange bits =>
    have habove : (one : Int) < signed negative units := by
      unfold lt at hlt
      rw [hone] at hlt
      exact of_decide_eq_true hlt
    have hbelow : (signed negative units - one).natAbs ≤ units := by
      cases negative <;> simp only [signed, Bool.false_eq_true, ↓reduceIte] at habove ⊢ <;> omega
    have hround := (roundUnits_le hbelow bits).trans_lt inRange
    rcases sub_of_isFinite hfinite honeFinite rfl hone with ⟨hcancel, -⟩ | ⟨-, heq⟩
    · omega
    · rw [heq, ofRatio, dif_pos hround]
      rfl

/-! ### The negative zero -/

/-- Rounding does not turn a positive count of units into a zero, of whatever sign. -/
theorem ofRatio_ne_negativeZero {negative : Bool} {n : Nat} (hpos : 0 < n) :
    ofRatio negative n 1 ≠ zero true := by
  have hround := roundUnits_pos hpos
  unfold ofRatio
  split
  · intro hzero
    injection hzero with _ hunits
    omega
  · exact fun hzero => by cases hzero

/-- A sum is the negative zero only if both terms are. -/
theorem add_ne_negativeZero {x : Binary64} (hx : x ≠ zero true) (y : Binary64) :
    x + y ≠ zero true := by
  rw [add_def]
  cases x with
  | nan => exact fun hzero => by cases hzero
  | infinity negative =>
    cases y with
    | nan | finite => exact fun hzero => by cases hzero
    | infinity other =>
      rw [add]
      split <;> exact fun hzero => by cases hzero
  | finite negative units inRange bits =>
    cases y with
    | nan | infinity => exact fun hzero => by cases hzero
    | finite other units' inRange' bits' =>
      rw [add]
      split
      · next hcancel =>
        intro hzero
        injection hzero with hsigns
        obtain ⟨rfl, rfl⟩ := Bool.and_eq_true_iff.mp hsigns
        simp only [signed, ↓reduceIte] at hcancel
        obtain rfl : units = 0 := by omega
        exact hx rfl
      · next hround => exact ofRatio_ne_negativeZero (Int.natAbs_pos.mpr hround)

theorem not_negative_of_signed_pos {negative : Bool} {units : Nat} (hpos : 0 < signed negative units) :
    negative = false := by
  cases negative with
  | false => rfl
  | true =>
    simp only [signed, ↓reduceIte] at hpos
    omega

/-- Which zero is added makes no difference, except to the negative zero. -/
theorem add_eq_of_isInt {x y z : Binary64} {n : Int} (hx : x ≠ zero true) (hy : y.IsInt n)
    (hz : z.IsInt n) (hyfinite : y.isFinite = true) (hzfinite : z.isFinite = true) :
    x + y = x + z := by
  rw [add_def, add_def]
  cases y with
  | nan | infinity => cases hyfinite
  | finite a units inRange bits =>
    cases z with
    | nan | infinity => cases hzfinite
    | finite b units' inRange' bits' =>
      have hplace : signed a units = signed b units' :=
        (Option.some.inj hy).trans (Option.some.inj hz).symm
      cases x with
      | nan | infinity => rfl
      | finite c others inRange'' bits'' =>
        simp only [add, hplace]
        split
        · next hcancel =>
          cases c with
          | false => rfl
          | true =>
            -- What cancels a negative number that is not zero is positive.
            have hothers : others ≠ 0 := by
              rintro rfl
              exact hx rfl
            have hpos : 0 < signed b units' := by
              simp only [signed, ↓reduceIte] at hcancel ⊢
              omega
            have hother : b = false := not_negative_of_signed_pos hpos
            have hsame : a = false := not_negative_of_signed_pos (hplace.symm ▸ hpos)
            rw [hother, hsame]
        · rfl

end ExporterAudit.Binary64
