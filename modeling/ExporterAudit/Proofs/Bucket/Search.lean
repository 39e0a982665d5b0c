import ExporterAudit.Proofs.Binary64.Magnitude
import ExporterAudit.Proofs.Bucket.Quarter

/-!
Where the search for an octave starts, and what that means for the bucket of a value. The rounded
logarithm is the exponent of the octave or of the next one. Only in the last octave of the format this
matters: for its last 354 numbers the start is infinite. All other positive finite numbers have the
bucket that is cut in their own octave.
-/

namespace ExporterAudit.Bucket

open Binary64

/-! ### Powers of two in the format -/

theorem has53Bits_two_pow (exponent : Nat) : Has53Bits (2 ^ exponent) :=
  ⟨1, exponent, by decide, by rw [Nat.one_mul]⟩

theorem hasUnits_powerOfTwo {exponent : Nat} (hlt : 2 ^ exponent < overflow) :
    (powerOfTwo exponent).HasUnits (2 ^ exponent) :=
  ⟨hlt, has53Bits_two_pow exponent, ofRatio_eq_finite false hlt (has53Bits_two_pow exponent)⟩

/-- Beyond the range a power of two is infinite. -/
theorem powerOfTwo_of_overflow_le {exponent : Nat} (hle : overflow ≤ 2 ^ exponent) :
    powerOfTwo exponent = .infinity false := by
  simp only [powerOfTwo, ofRatio, roundUnits_eq_self (has53Bits_two_pow exponent), Nat.not_lt.mpr hle,
    ↓reduceDIte]

/-- The exponents of the powers of two in the format. -/
theorem two_pow_lt_overflow_iff {exponent : Nat} : 2 ^ exponent < overflow ↔ exponent < 2098 := by
  have hpower (bound : Nat) : 2 ^ exponent < 2 ^ bound ↔ exponent < bound :=
    Nat.pow_lt_pow_iff_right (by decide)
  unfold overflow
  exact hpower 2098

/-- The powers of two past the end of the format are infinite, and no others. -/
theorem powerOfTwo_eq_infinity_iff {exponent : Nat} :
    powerOfTwo exponent = .infinity false ↔ 2098 ≤ exponent := by
  by_cases hlt : 2 ^ exponent < overflow
  · obtain ⟨inRange, bits, hpower⟩ := hasUnits_powerOfTwo hlt
    rw [hpower, ← Nat.not_lt, ← two_pow_lt_overflow_iff]
    simp [hlt]
  · rw [powerOfTwo_of_overflow_le (Nat.le_of_not_lt hlt), ← Nat.not_lt, ← two_pow_lt_overflow_iff]
    simp [hlt]

/-! ### The start -/

/-- The distance of the last numbers of the format, in units. -/
def lastGap : Nat := 2 ^ 2045

theorem lastGap_pos : 0 < lastGap := by
  unfold lastGap
  apply Nat.two_pow_pos

/-- The range has as many gaps as a magnitude has multiples of the last one. -/
theorem overflow_eq : overflow = 2 ^ 53 * lastGap := by
  unfold overflow lastGap
  rw [← Nat.pow_add]

/-- The magnitude of the least number whose logarithm rounds to the exponent beyond the range. -/
def searchEndUnits : Nat := (2 ^ 53 - 354) * lastGap

/-- The least number whose base-two logarithm rounds to 1024, the exponent beyond the range:
`2 ^ 1024 - 354 * 2 ^ 971`. From here on no octave is found. -/
def searchEnd : Binary64 := .ofRatio false searchEndUnits 1

/-- The first value without a bucket is a number of the format itself. -/
theorem hasUnits_searchEnd : searchEnd.HasUnits searchEndUnits := by
  have hlt : searchEndUnits < overflow := by
    rw [overflow_eq, searchEndUnits]
    exact Nat.mul_lt_mul_of_pos_right (by decide) lastGap_pos
  have hbits : Has53Bits searchEndUnits := by
    unfold searchEndUnits lastGap
    exact has53Bits_of_le (by decide) _
  exact ⟨hlt, hbits, ofRatio_eq_finite false hlt hbits⟩

/-- The start is beyond the range for the last numbers of the last octave only. -/
theorem logExponent_lt_iff {units : Nat} (hpos : 0 < units) (hlt : units < overflow) :
    logExponent units < 2098 ↔ units < searchEndUnits := by
  have hlog : Nat.log2 units < 2098 := by
    rw [← two_pow_lt_overflow_iff]
    exact (Nat.log2_self_le hpos.ne').trans_lt hlt
  have hbound := Nat.lt_log2_self (n := units)
  rw [overflow_eq] at hlt
  unfold searchEndUnits logExponent
  by_cases hlast : Nat.log2 units = 2097
  · have hreach : roundingReach (((Nat.log2 units + 1 : Nat) : Int) + unitExponent) = 354 := by
      rw [hlast]
      decide
    have hnext : 2 ^ (Nat.log2 units + 1) = 2 ^ 53 * lastGap := by
      rw [hlast, lastGap, ← Nat.pow_add]
    simp only [hreach, hnext]
    split <;> omega
  · -- An octave below the last one ends where the last one starts.
    have hsmall : 2 ^ (Nat.log2 units + 1) ≤ 2 ^ 52 * lastGap := by
      unfold lastGap
      rw [← Nat.pow_add]
      apply Nat.pow_le_pow_right (by decide)
      omega
    dsimp only
    split <;> omega

/-- Every edge of the format lies before the end of the search: the last one starts the last quarter. -/
theorem cut_lt_searchEndUnits {units : Nat} (hfour : 4 ≤ units) (hlt : units < overflow) :
    cut units < searchEndUnits := by
  obtain ⟨quarter, hquarter, hcut⟩ := exists_cut_eq hfour
  have hwidth : widthExponent units ≤ 2095 := by
    have hlog := two_pow_lt_overflow_iff.mp ((Nat.log2_self_le (by omega)).trans_lt hlt)
    unfold widthExponent
    omega
  have hquarters : 2 ^ widthExponent units ≤ 2 ^ 50 * lastGap := by
    unfold lastGap
    rw [← Nat.pow_add]
    apply Nat.pow_le_pow_right (by decide)
    omega
  calc cut units
      = (4 + quarter) * 2 ^ widthExponent units := hcut
    _ ≤ 7 * (2 ^ 50 * lastGap) := Nat.mul_le_mul (by omega) hquarters
    _ < searchEndUnits := by
      have hpos := lastGap_pos
      unfold searchEndUnits
      omega

/-- Integers that are not rounded lie far before the end of the search, and so does all below them. -/
theorem lt_searchEnd_of_le {value : Binary64} {units : Nat} (hvalue : value.HasUnits units)
    (hle : units ≤ 2 ^ 53 * one) : lt value searchEnd = true := by
  have hgap : 2 ^ 53 * one ≤ lastGap := by
    unfold one lastGap
    exact two_pow_mul_two_pow_le (by decide)
  have hpos := lastGap_pos
  rw [hvalue.lt_iff hasUnits_searchEnd, searchEndUnits]
  omega

/-! ### What becomes of a value -/

/-- The bucket of a positive finite value is cut in its own octave, wherever the search ends. -/
theorem ofValue_eq {value : Binary64} {units : Nat} (hvalue : value.HasUnits units)
    (hpos : 0 < units) :
    ofValue value = if lt value searchEnd then .ok (lowerEdge (powerOfTwo (Nat.log2 units)) value)
      else .error (.endless value) := by
  have hstart : powerOfTwo (logExponent units) = .infinity false ↔ ¬ lt value searchEnd = true := by
    rw [powerOfTwo_eq_infinity_iff, hvalue.lt_iff hasUnits_searchEnd,
      ← logExponent_lt_iff hpos hvalue.lt_overflow, Nat.not_lt]
  obtain ⟨inRange, bits, rfl⟩ := hvalue
  simp only [ofValue, Bool.false_eq_true, hpos.ne', or_self, ↓reduceIte, hstart,
    octaveExponent_eq_log2 hpos, ite_not]

/-- Below the end of the search the bucket is the edge found from the octave of the value, whatever
the search started from. -/
theorem ofValue_of_lt {value : Binary64} {units : Nat} (hvalue : value.HasUnits units)
    (hpos : 0 < units) (hlt : lt value searchEnd = true) :
    ofValue value = .ok (lowerEdge (powerOfTwo (Nat.log2 units)) value) := by
  rw [ofValue_eq hvalue hpos, if_pos hlt]

/-- Whether a value has a bucket: it is finite and positive, and lies before the end of the search. -/
def isCounted (value : Binary64) : Bool :=
  value.isFinite && lt 0 value && lt value searchEnd

/-- The values with a bucket: finite, positive and below the end of the search. -/
theorem isCounted_eq_true_iff {value : Binary64} :
    isCounted value = true ↔
      value.isFinite = true ∧ lt 0 value = true ∧ lt value searchEnd = true := by
  rw [isCounted, Bool.and_eq_true, Bool.and_eq_true, and_assoc]

/-- What becomes of a value without a bucket: it is refused, or the search for its octave goes on for
ever. -/
def refusal (value : Binary64) : Failure :=
  if value.isFinite && lt 0 value then .endless value else .invalidBucketValue value

/-- A positive finite value without a bucket is not refused. Its search does not end. -/
theorem refusal_of_positive {value : Binary64} (hfinite : value.isFinite = true)
    (hpos : lt 0 value = true) : refusal value = .endless value := by
  rw [refusal, hfinite, hpos]
  rfl

theorem refusal_of_not_positive {value : Binary64}
    (hpositive : ¬ (value.isFinite = true ∧ lt 0 value = true)) :
    refusal value = .invalidBucketValue value :=
  if_neg (by rwa [Bool.and_eq_true])

/-- The check at the front refuses what is not positive and finite; all else reaches the search. -/
theorem ofValue_of_not_isCounted {value : Binary64} (hcounted : isCounted value = false) :
    ofValue value = .error (refusal value) := by
  by_cases hpositive : value.isFinite = true ∧ lt 0 value = true
  · obtain ⟨hfinite, hpos⟩ := hpositive
    obtain ⟨units, hunits, hunitsPos⟩ := exists_hasUnits_of_pos hfinite hpos
    simp only [isCounted, hfinite, hpos, Bool.and_self, Bool.true_and] at hcounted
    rw [ofValue_eq hunits hunitsPos, refusal_of_positive hfinite hpos, if_neg (by simp [hcounted])]
  · rw [refusal_of_not_positive hpositive]
    cases value with
    | nan | infinity => rfl
    | finite negative units inRange bits =>
      rw [zero_lt_finite_iff] at hpositive
      refine if_pos ?_
      cases negative with
      | true => exact .inl rfl
      | false => exact .inr (Nat.eq_zero_of_not_pos fun hpos => hpositive ⟨rfl, rfl, hpos⟩)

/-- Exactly the positive finite numbers before the end of the search have a bucket. -/
theorem exists_ofValue_iff {value : Binary64} :
    (∃ bucket, ofValue value = .ok bucket) ↔ isCounted value = true := by
  constructor
  · rintro ⟨bucket, hbucket⟩
    by_contra hcounted
    rw [ofValue_of_not_isCounted (Bool.eq_false_iff.mpr hcounted)] at hbucket
    cases hbucket
  · intro hcounted
    obtain ⟨hfinite, hpos, hlt⟩ := isCounted_eq_true_iff.mp hcounted
    obtain ⟨units, hunits, hunitsPos⟩ := exists_hasUnits_of_pos hfinite hpos
    exact ⟨_, ofValue_of_lt hunits hunitsPos hlt⟩

/-! ### The greatest number -/

/-- The greatest number of the format. -/
def greatest : Binary64 := .ofRatio false ((2 ^ 53 - 1) * lastGap) 1

theorem greatest_positive : greatest.isFinite = true ∧ lt 0 greatest = true := by
  decide +kernel

/-- One less than the greatest number is rounded to it. -/
theorem greatest_sub_one : greatest - 1 = greatest := by
  decide +kernel

theorem isCounted_greatest : isCounted greatest = false := by
  decide +kernel

/-- The search for the octave of the greatest number does not end. -/
theorem ofValue_greatest : ofValue greatest = .error (.endless greatest) := by
  rw [ofValue_of_not_isCounted isCounted_greatest,
    refusal_of_positive greatest_positive.1 greatest_positive.2]

end ExporterAudit.Bucket
