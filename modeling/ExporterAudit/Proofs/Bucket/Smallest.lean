import ExporterAudit.Proofs.Bucket.LowerEdge

/-!
Values of fewer than four units, below `2 ^ -1072`. The width of their quarter is less than one unit
and rounds to zero, so the division by it leaves no number, and neither does the bucket.
-/

namespace ExporterAudit.Bucket

open Binary64

/-- Half a unit and less rounds to zero. -/
theorem hasUnits_ofRatio_of_le_half {num den : Nat} (hhalf : 2 * num ≤ den) (hden : 0 < den) :
    (ofRatio false num den).HasUnits 0 := by
  have hquotient : num / den = 0 := Nat.div_eq_of_lt (by omega)
  have hremainder : num % den = num := Nat.mod_eq_of_lt (by omega)
  have hround : roundUnits num den = 0 := by
    simp only [roundUnits, hquotient, gridExponent, Nat.log2_zero, Nat.zero_sub, Nat.pow_zero,
      Nat.mul_one, roundDiv, hremainder, Nat.zero_mod, Nat.add_zero]
    split
    · rfl
    · rw [if_pos (by omega)]
  refine ⟨overflow_pos, ⟨0, 0, by decide, rfl⟩, ?_⟩
  simp only [ofRatio, hround, overflow_pos, ↓reduceDIte]

/-- Nothing is a multiple of a width of zero. -/
theorem mul_floor_div_zero {rest width : Binary64} {units : Nat} (hrest : rest.HasUnits units)
    (hwidth : width.HasUnits 0) : width * (rest / width).floor = .nan := by
  obtain ⟨inRange, bits, rfl⟩ := hrest
  obtain ⟨inRange', bits', rfl⟩ := hwidth
  change Binary64.mul _ (Binary64.div _ _).floor = .nan
  by_cases hzero : units = 0
  · simp only [Binary64.div, hzero, ↓reduceIte, Binary64.floor, Binary64.mul]
  · simp only [Binary64.div, hzero, ↓reduceIte, Binary64.floor, Binary64.mul]

theorem add_nan (x : Binary64) : x + .nan = .nan := by
  cases x <;> rfl

/-- Below four units a quarter of the octave is at most half a unit wide. -/
theorem lowerEdge_eq_nan {value : Binary64} {units : Nat} (hvalue : value.HasUnits units)
    (hpos : 0 < units) (hlt : units < 4) :
    lowerEdge (powerOfTwo (Nat.log2 units)) value = .nan := by
  have hstart : 2 ^ Nat.log2 units ≤ units := Nat.log2_self_le hpos.ne'
  have hoctave : 2 ^ Nat.log2 units ≤ 2 := by
    have hexponent : Nat.log2 units < 2 := (Nat.log2_lt hpos.ne').mpr hlt
    exact Nat.pow_le_pow_right (by decide) (show Nat.log2 units ≤ 1 by omega)
  have hlow := hasUnits_powerOfTwo (hstart.trans_lt hvalue.lt_overflow)
  generalize powerOfTwo (Nat.log2 units) = low at hlow ⊢
  generalize 2 ^ Nat.log2 units = start at hstart hoctave hlow
  have hwidth : (low / ofNat perOctave).HasUnits 0 := by
    obtain ⟨inRange, bits, rfl⟩ := hlow
    have hone := Binary64.one_pos
    obtain ⟨inRange', bits', hfour⟩ := hasUnits_ofNat (n := perOctave) (by decide)
    rw [hfour]
    change (Binary64.div _ _).HasUnits 0
    have hdivisor : perOctave * one ≠ 0 := (Nat.mul_pos (by decide) hone).ne'
    simp only [Binary64.div, hdivisor, ↓reduceIte, Bool.xor_false]
    refine hasUnits_ofRatio_of_le_half ?_ (Nat.pos_of_ne_zero hdivisor)
    rw [← Nat.mul_assoc]
    exact Nat.mul_le_mul_right one (show 2 * start ≤ 4 by omega)
  have hrest : (value - low).HasUnits (units - start) :=
    hvalue.sub hlow hstart ⟨units - start, 0, by omega, by rw [Nat.pow_zero, Nat.mul_one]⟩
  rw [lowerEdge]
  simp only [mul_floor_div_zero hrest hwidth, add_nan]

/-- The three positive numbers below four units have no number for a bucket. -/
theorem ofValue_eq_nan {value : Binary64} {units : Nat} (hvalue : value.HasUnits units)
    (hpos : 0 < units) (hlt : units < 4) : ofValue value = .ok .nan := by
  have hone : 2 ^ 53 ≤ 2 ^ 53 * one := Nat.le_mul_of_pos_right _ Binary64.one_pos
  rw [ofValue_of_lt hvalue hpos (lt_searchEnd_of_le hvalue (by omega)),
    lowerEdge_eq_nan hvalue hpos hlt]

end ExporterAudit.Bucket
