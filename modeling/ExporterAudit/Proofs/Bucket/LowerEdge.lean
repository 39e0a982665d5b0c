import ExporterAudit.Proofs.Bucket.Search
import Mathlib.Tactic.Linarith
import Mathlib.Tactic.Ring

/-!
The bucket of a value is the lower edge of its quarter octave, computed without rounding. Its three
scaled operations and the rounding down are exact from four units on, where a quarter is no finer than
the grid of the format.
-/

namespace ExporterAudit.Bucket

open Binary64

/-- What lies above the start of the octave is a magnitude of the format, and so is its multiple of
the width of a quarter. -/
theorem exists_scaled_rest {units : Nat} (hfour : 4 ≤ units) (hbits : Has53Bits units) :
    Has53Bits (units - 4 * 2 ^ widthExponent units) ∧
      ∃ quotient, Has53Bits quotient ∧
        (units - 4 * 2 ^ widthExponent units) * one = quotient * 2 ^ widthExponent units := by
  have hne : units ≠ 0 := by omega
  have hlog : 2 ≤ Nat.log2 units := (Nat.le_log2 hne).mpr hfour
  obtain ⟨significand, hunits⟩ := grid_dvd le_rfl hbits
  have hgrid := Nat.two_pow_pos (gridExponent units)
  have hsmall : significand < 2 ^ 53 := by
    have hquotient := div_gridExponent_lt units
    rwa [Nat.div_eq_of_eq_mul_right hgrid hunits] at hquotient
  have hstart : 4 * 2 ^ widthExponent units =
      2 ^ gridExponent units * 2 ^ (widthExponent units + 2 - gridExponent units) := by
    rw [← Nat.pow_add, show gridExponent units + (widthExponent units + 2 - gridExponent units) =
      widthExponent units + 2 by unfold gridExponent widthExponent; omega, Nat.pow_add, Nat.mul_comm]
  have hrest : units - 4 * 2 ^ widthExponent units =
      (significand - 2 ^ (widthExponent units + 2 - gridExponent units)) * 2 ^ gridExponent units := by
    nth_rewrite 1 [hunits]
    rw [hstart, ← Nat.mul_sub, Nat.mul_comm]
  have hbelow : significand - 2 ^ (widthExponent units + 2 - gridExponent units) < 2 ^ 53 :=
    (Nat.sub_le _ _).trans_lt hsmall
  refine ⟨⟨_, _, hbelow, hrest⟩,
    _, ⟨_, gridExponent units + 1074 - widthExponent units, hbelow, rfl⟩, ?_⟩
  have hexponents : gridExponent units + 1074 =
      gridExponent units + 1074 - widthExponent units + widthExponent units := by
    unfold gridExponent widthExponent
    omega
  rw [hrest, Nat.mul_assoc, Nat.mul_assoc, show one = 2 ^ 1074 by unfold one; rfl, ← Nat.pow_add,
    ← Nat.pow_add, ← hexponents]

/-- In the octave of a value the arithmetic is exact, and gives the value cut down to three leading
bits. -/
theorem hasUnits_lowerEdge {value : Binary64} {units : Nat} (hvalue : value.HasUnits units)
    (hfour : 4 ≤ units) :
    (lowerEdge (powerOfTwo (Nat.log2 units)) value).HasUnits (cut units) := by
  obtain ⟨hlow, hhigh⟩ := octave_bounds hfour
  obtain ⟨quarter, hquarter, hcut⟩ := exists_cut_eq hfour
  obtain ⟨hrest, quotient, hbits, hquotient⟩ := exists_scaled_rest hfour hvalue.has53Bits
  have hne : units ≠ 0 := by omega
  have hlog : 2 ≤ Nat.log2 units := (Nat.le_log2 hne).mpr hfour
  have hpos := Nat.two_pow_pos (widthExponent units)
  have hrange := hvalue.lt_overflow
  have hstart : 2 ^ Nat.log2 units = 4 * 2 ^ widthExponent units := by
    rw [show Nat.log2 units = widthExponent units + 2 by unfold widthExponent; omega, Nat.pow_add,
      Nat.mul_comm]
  have hlowUnits := hasUnits_powerOfTwo (show 2 ^ Nat.log2 units < overflow by omega)
  rw [hstart] at hlowUnits
  -- A quarter of the octave.
  have hstep : (powerOfTwo (Nat.log2 units) / ofNat perOctave).HasUnits (2 ^ widthExponent units) := by
    have hdivisor : 0 < perOctave * one := Nat.mul_pos (by decide) Binary64.one_pos
    refine hlowUnits.div (hasUnits_ofNat (by decide)) hdivisor ?_ (by omega)
      ⟨1, _, by decide, by rw [Nat.one_mul]⟩
    rw [perOctave, Nat.mul_comm 4, Nat.mul_assoc]
  -- The part of the value above the start of the octave, in quarters.
  have hratio : ((value - powerOfTwo (Nat.log2 units)) /
      (powerOfTwo (Nat.log2 units) / ofNat perOctave)).HasUnits quotient := by
    refine (hvalue.sub hlowUnits hlow hrest).div hstep hpos hquotient ?_ hbits
    have hfits : 4 * one < overflow := mul_one_lt_overflow (by decide)
    have hbelow : quotient * 2 ^ widthExponent units < 4 * one * 2 ^ widthExponent units := by
      rw [← hquotient, Nat.mul_right_comm]
      exact Nat.mul_lt_mul_of_pos_right (by omega) Binary64.one_pos
    exact (Nat.lt_of_mul_lt_mul_right hbelow).trans hfits
  have hwhole : quotient / one = quarter := by
    have hquarters : units / 2 ^ widthExponent units = 4 + quarter :=
      Nat.eq_of_mul_eq_mul_right hpos hcut
    calc quotient / one
        = quotient * 2 ^ widthExponent units / (one * 2 ^ widthExponent units) :=
          (Nat.mul_div_mul_right _ _ hpos).symm
      _ = (units - 4 * 2 ^ widthExponent units) * one / (2 ^ widthExponent units * one) := by
          rw [hquotient, Nat.mul_comm one]
      _ = (units - 2 ^ widthExponent units * 4) / 2 ^ widthExponent units := by
          rw [Nat.mul_div_mul_right _ _ Binary64.one_pos, Nat.mul_comm 4]
      _ = quarter := by rw [Nat.sub_mul_div, hquarters, Nat.add_sub_cancel_left]
  have hsum : 4 * 2 ^ widthExponent units + quarter * 2 ^ widthExponent units = cut units := by
    rw [hcut, Nat.add_mul]
  have hcutLe := cut_le units
  have hfloor := hratio.floor hwhole (hquarter.trans (by decide))
  have hproduct := hstep.mul hfloor
    (show _ = quarter * 2 ^ widthExponent units * one by rw [Nat.mul_left_comm, Nat.mul_assoc])
    (by omega) ⟨quarter, _, hquarter.trans (by decide), rfl⟩
  have hedge := hlowUnits.add hproduct (by omega)
    ⟨4 + quarter, widthExponent units, by omega, by rw [hsum, hcut]⟩
  rw [hsum] at hedge
  exact hedge

/-- Before the end of the search a value is taken to its lower edge. -/
theorem exists_ofValue_hasUnits {value : Binary64} {units : Nat} (hvalue : value.HasUnits units)
    (hfour : 4 ≤ units) (hlt : lt value searchEnd = true) :
    ∃ bucket, ofValue value = .ok bucket ∧ bucket.HasUnits (cut units) :=
  ⟨_, ofValue_of_lt hvalue (by omega) hlt, hasUnits_lowerEdge hvalue hfour⟩

/-- An edge is its own bucket. -/
theorem ofValue_of_cut {bucket : Binary64} {units : Nat} (hfour : 4 ≤ units)
    (hbucket : bucket.HasUnits (cut units)) (hrange : units < overflow) :
    ofValue bucket = .ok bucket := by
  have hlt : lt bucket searchEnd = true :=
    (hbucket.lt_iff hasUnits_searchEnd).mpr (cut_lt_searchEndUnits hfour hrange)
  obtain ⟨again, hagain, hunits⟩ := exists_ofValue_hasUnits hbucket (four_le_cut hfour) hlt
  rw [cut_cut hfour] at hunits
  rw [hagain, (hunits.eq_iff hbucket).mpr rfl]

/-- The bucket of a value whose octave is found from the power of two with the given exponent. -/
def ofGuess (guess : ℤ) (value : Binary64) : Binary64 :=
  match value with
  | .finite _ units _ _ => lowerEdge (powerOfTwo (octaveExponent (guess + 1074).toNat units)) value
  | value => value

/-- The guess does not matter. -/
theorem ofGuess_eq {value : Binary64} {units : Nat} (hvalue : value.HasUnits units)
    (hpos : 0 < units) (guess : ℤ) :
    ofGuess guess value = lowerEdge (powerOfTwo (Nat.log2 units)) value := by
  obtain ⟨inRange, bits, rfl⟩ := hvalue
  rw [ofGuess, octaveExponent_eq_log2 hpos]

/-! ### Edges as rational numbers -/

/-- An edge between buckets: a power of two, and some quarters of it. -/
def edge (exponent : ℤ) (quarter : ℕ) : ℚ :=
  2 ^ exponent + quarter * 2 ^ (exponent - 2)

theorem edge_zero (exponent : ℤ) : edge exponent 0 = 2 ^ exponent := by
  simp [edge]

/-- The edges of an octave are a quarter of it apart, and the last quarter ends where the next
octave begins. -/
theorem edge_succ (exponent : ℤ) (quarter : ℕ) :
    edge exponent (quarter + 1) = edge exponent quarter + 2 ^ (exponent - 2) := by
  unfold edge
  push_cast
  ring

theorem edge_eq (width quarter : ℕ) :
    edge ((width : ℤ) + 2 - 1074) quarter = ((4 + quarter) * 2 ^ width : ℕ) / 2 ^ (1074 : ℤ) := by
  have hfour : (2 : ℚ) ^ (2 : ℤ) = 4 := by norm_num
  have hquarter : (width : ℤ) + 2 - 1074 - 2 = width - 1074 := by ring
  rw [edge, hquarter, zpow_sub₀ two_ne_zero, zpow_add₀ two_ne_zero, zpow_sub₀ two_ne_zero,
    zpow_natCast, hfour]
  generalize (2 : ℚ) ^ (1074 : ℤ) = scale
  push_cast
  ring

/-- All quarters of an octave lie in it. -/
theorem edge_lt {quarter : ℕ} (hquarter : quarter < 4) (exponent : ℤ) :
    edge exponent quarter < 2 ^ (exponent + 1) := by
  have hwidth : (0 : ℚ) < 2 ^ (exponent - 2) := by positivity
  have hoctave : (2 : ℚ) ^ exponent = 4 * 2 ^ (exponent - 2) := by
    rw [zpow_sub₀ two_ne_zero]
    norm_num
    ring
  have hthree : (quarter : ℚ) ≤ 3 := by exact_mod_cast Nat.le_of_lt_succ hquarter
  have hquarters := mul_le_mul_of_nonneg_right hthree hwidth.le
  rw [edge, zpow_add₀ two_ne_zero, zpow_one, hoctave]
  linarith

/-- An edge above a value that has a bucket is one of the edges of the format. -/
theorem exists_width_of_lt_edge {exponent : ℤ} {quarter : ℕ} (hquarter : quarter < 4) {value : ℚ}
    (hlow : 2 ^ (-1072 : ℤ) ≤ value) (hlt : value < edge exponent quarter) :
    ∃ width : ℕ, exponent = width + 2 - 1074 := by
  have hpower := (hlow.trans_lt hlt).trans (edge_lt hquarter exponent)
  have hexponent := (zpow_lt_zpow_iff_right₀ (by norm_num : (1 : ℚ) < 2)).mp hpower
  exact ⟨(exponent + 1072).toNat, by omega⟩

/-- Whether a value lies below an edge is a question of units. -/
theorem lt_edge_iff {value : Binary64} {units : Nat} (hvalue : value.HasUnits units)
    (width quarter : ℕ) :
    value.toRat < edge ((width : ℤ) + 2 - 1074) quarter ↔ units < (4 + quarter) * 2 ^ width := by
  rw [hvalue.toRat, edge_eq, div_lt_div_iff_of_pos_right (by positivity), Nat.cast_lt]

theorem edge_le_iff {value : Binary64} {units : Nat} (hvalue : value.HasUnits units)
    (width quarter : ℕ) :
    edge ((width : ℤ) + 2 - 1074) quarter ≤ value.toRat ↔ (4 + quarter) * 2 ^ width ≤ units := by
  rw [hvalue.toRat, edge_eq, div_le_div_iff_of_pos_right (by positivity), Nat.cast_le]

/-- Two values have one bucket exactly if no edge lies above the smaller one and not above the
greater one. -/
theorem cut_eq_cut_iff_edge {v w : Binary64} {m n : Nat} (hv : v.HasUnits m) (hw : w.HasUnits n)
    (hlow : 2 ^ (-1072 : ℤ) ≤ v.toRat) (hfour : 4 ≤ m) (hle : m ≤ n) :
    cut m = cut n ↔ ∀ exponent quarter, quarter < 4 →
      ¬ (v.toRat < edge exponent quarter ∧ edge exponent quarter ≤ w.toRat) := by
  rw [cut_eq_cut_iff hfour hle]
  constructor
  · rintro hnone exponent quarter hquarter ⟨habove, hbelow⟩
    obtain ⟨width, rfl⟩ := exists_width_of_lt_edge hquarter hlow habove
    exact hnone width quarter hquarter
      ⟨(lt_edge_iff hv width quarter).mp habove, (edge_le_iff hw width quarter).mp hbelow⟩
  · rintro hnone width quarter hquarter ⟨habove, hbelow⟩
    exact hnone _ quarter hquarter
      ⟨(lt_edge_iff hv width quarter).mpr habove, (edge_le_iff hw width quarter).mpr hbelow⟩

/-- The cut of a magnitude, told as rational numbers: the octave of a value, its quarter and the
edge below. -/
theorem exists_quarter_octave {value bucket : Binary64} {units : Nat} (hvalue : value.HasUnits units)
    (hfour : 4 ≤ units) (hbucket : bucket.HasUnits (cut units)) :
    ∃ (k : ℤ) (j : ℕ), j < 4 ∧ 2 ^ k ≤ value.toRat ∧ value.toRat < 2 ^ (k + 1) ∧
      bucket.toRat = 2 ^ k + j * 2 ^ (k - 2) ∧ bucket.toRat ≤ value.toRat ∧
      value.toRat < bucket.toRat + 2 ^ (k - 2) := by
  obtain ⟨quarter, hquarter, hcut⟩ := exists_cut_eq hfour
  obtain ⟨hstart, hend⟩ := octave_bounds hfour
  have habove := lt_cut_add units
  generalize hwidth : widthExponent units = width at hcut hstart hend habove
  have hedge : bucket.toRat = edge ((width : ℤ) + 2 - 1074) quarter := by
    rw [hbucket.toRat, hcut, edge_eq]
  refine ⟨(width : ℤ) + 2 - 1074, quarter, hquarter, ?_, ?_, hedge, ?_, ?_⟩
  · rw [← edge_zero, edge_le_iff hvalue]
    exact hstart
  · have hnext : (width : ℤ) + 2 - 1074 + 1 = ((width + 1 : ℕ) : ℤ) + 2 - 1074 := by omega
    rw [hnext, ← edge_zero, lt_edge_iff hvalue, Nat.pow_succ]
    omega
  · rw [hbucket.toRat_le_iff hvalue]
    exact cut_le units
  · rw [hedge, ← edge_succ, lt_edge_iff hvalue]
    rw [hcut] at habove
    rwa [← Nat.add_assoc, Nat.succ_mul]

/-- Bucketing takes every value of at least `2 ^ -1072` to the lower edge of its quarter octave, from
whatever power of two of the format the octave is looked for. So bucketing is idempotent and keeps the
order, and two values share a bucket exactly if no edge lies above the smaller one and not above the
greater one. The search finds its own start for all values before its end. -/
theorem bucket_is_lower_edge {v w : Binary64} (hv : v.isFinite = true) (hw : w.isFinite = true)
    (hvlow : 2 ^ (-1072 : ℤ) ≤ v.toRat) (hwlow : 2 ^ (-1072 : ℤ) ≤ w.toRat) :
    ∃ a b, (∀ guess : ℤ, -1074 ≤ guess → guess ≤ 1023 → ofGuess guess v = a ∧ ofGuess guess w = b) ∧
      (lt v searchEnd = true → ofValue v = .ok a) ∧ (lt w searchEnd = true → ofValue w = .ok b) ∧
      a.isFinite = true ∧
      (∃ (k : ℤ) (j : ℕ), j < 4 ∧ 2 ^ k ≤ v.toRat ∧ v.toRat < 2 ^ (k + 1) ∧
        a.toRat = 2 ^ k + j * 2 ^ (k - 2) ∧ a.toRat ≤ v.toRat ∧
        v.toRat < a.toRat + 2 ^ (k - 2)) ∧
      ofValue a = .ok a ∧
      (v.toRat ≤ w.toRat → a.toRat ≤ b.toRat) ∧
      (a = b ↔ ∀ (k : ℤ) (j : ℕ), j < 4 →
        ¬ (min v.toRat w.toRat < 2 ^ k + j * 2 ^ (k - 2) ∧
          2 ^ k + j * 2 ^ (k - 2) ≤ max v.toRat w.toRat)) := by
  obtain ⟨m, hm, hmfour⟩ := exists_hasUnits hv 2 hvlow
  obtain ⟨n, hn, hnfour⟩ := exists_hasUnits hw 2 hwlow
  have hmpos : 0 < m := by omega
  have hnpos : 0 < n := by omega
  have haunits := hasUnits_lowerEdge hm hmfour
  have hbunits := hasUnits_lowerEdge hn hnfour
  refine ⟨_, _, fun guess _ _ => ⟨ofGuess_eq hm hmpos guess, ofGuess_eq hn hnpos guess⟩,
    ofValue_of_lt hm hmpos, ofValue_of_lt hn hnpos, haunits.isFinite,
    exists_quarter_octave hm hmfour haunits, ofValue_of_cut hmfour haunits hm.lt_overflow, ?_, ?_⟩
  · rw [hm.toRat_le_iff hn, haunits.toRat_le_iff hbunits]
    exact cut_le_cut hmfour
  · rw [haunits.eq_iff hbunits]
    rcases Nat.le_total m n with hle | hle
    · have hvalues := (hm.toRat_le_iff hn).mpr hle
      rw [min_eq_left hvalues, max_eq_right hvalues]
      exact cut_eq_cut_iff_edge hm hn hvlow hmfour hle
    · have hvalues := (hn.toRat_le_iff hm).mpr hle
      rw [min_eq_right hvalues, max_eq_left hvalues, eq_comm]
      exact cut_eq_cut_iff_edge hn hm hwlow hnfour hle

theorem bucket_is_lower_edge_acrossOctaves :
    isFinite 15 = true ∧ isFinite 16 = true ∧ 2 ^ (-1072 : ℤ) ≤ toRat 15 ∧
      2 ^ (-1072 : ℤ) ≤ toRat 16 ∧
      ∃ a b, ofValue 15 = .ok a ∧ ofValue 16 = .ok b ∧ ofGuess 1023 15 = a ∧ ofValue a = .ok a ∧
        a.toRat ≤ b.toRat ∧ a ≠ b := by
  have hfifteen : toRat 15 = 15 := toRat_ofNat (n := 15) (by decide)
  have hsixteen : toRat 16 = 16 := toRat_ofNat (n := 16) (by decide)
  have hfinite : isFinite 15 = true := (hasUnits_ofNat (n := 15) (by decide)).isFinite
  have hfinite' : isFinite 16 = true := (hasUnits_ofNat (n := 16) (by decide)).isFinite
  have hsmall : (2 : ℚ) ^ (-1072 : ℤ) ≤ 1 := zpow_le_one_of_nonpos₀ (by norm_num) (by norm_num)
  have hlow : 2 ^ (-1072 : ℤ) ≤ toRat 15 := by linarith
  have hlow' : 2 ^ (-1072 : ℤ) ≤ toRat 16 := by linarith
  obtain ⟨a, b, hguess, ha, hb, -, -, hidempotent, hmonotone, hshare⟩ :=
    bucket_is_lower_edge hfinite hfinite' hlow hlow'
  obtain ⟨hguessed, -⟩ := hguess 1023 (by norm_num) le_rfl
  refine ⟨hfinite, hfinite', hlow, hlow', a, b, ha (by decide +kernel), hb (by decide +kernel),
    hguessed, hidempotent, hmonotone (by linarith), fun heq => ?_⟩
  -- The octave of sixteen starts between the two.
  refine hshare.mp heq 4 0 (by norm_num) ?_
  rw [hfifteen, hsixteen]
  norm_num

end ExporterAudit.Bucket
