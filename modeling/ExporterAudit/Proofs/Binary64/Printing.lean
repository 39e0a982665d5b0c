import ExporterAudit.Binary64.Shortest
import ExporterAudit.Proofs.Binary64.Exact
import ExporterAudit.Proofs.Text.Lines
import Mathlib.Tactic.Ring

/-!
Printed numbers told apart. The decimal that is printed lies among the reals that round to the
number, and no other number of the format does, so a number that is printed like a positive integer
is that integer.
-/

namespace ExporterAudit

/-! ### Digits -/

namespace Text

theorem isDigit_of_mem_ofNat {n : Nat} {c : Char} (hmem : c ∈ ofNat n) : c.isDigit = true :=
  Nat.isDigit_of_mem_toDigits (by decide) (by decide) hmem

/-- Printed naturals are digits only, so they can be told apart in a list with commas. -/
theorem comma_not_mem_ofNat (n : Nat) : ',' ∉ ofNat n := fun hmem =>
  absurd (isDigit_of_mem_ofNat hmem) (by decide)

theorem ofDigitChars_ofNat (n : Nat) : Nat.ofDigitChars 10 (ofNat n) 0 = n :=
  Nat.ofDigitChars_ten_toDigits

end Text

namespace Binary64

/-- A decimal that is printed with digits alone is a natural number. -/
theorem Decimal.eq_of_toText {decimal : Decimal} {n : Nat} (htext : decimal.toText = Text.ofNat n) :
    ∃ zeros : Nat, decimal.exponent = zeros ∧ decimal.digits * 10 ^ zeros = n := by
  have hdigits {c : Char} (hmem : c ∈ decimal.toText) : c.isDigit = true :=
    Text.isDigit_of_mem_ofNat (htext ▸ hmem)
  simp only [toText] at htext hdigits
  split_ifs at htext hdigits with hwhole hpoint hsmall hmark
  · obtain ⟨zeros, hzeros⟩ := Int.eq_ofNat_of_zero_le (a := decimal.exponent) (by omega)
    refine ⟨zeros, hzeros, ?_⟩
    rw [hzeros] at htext
    have hvalue := congrArg (Nat.ofDigitChars 10 · 0) htext
    simp only [Nat.ofDigitChars_append, Text.ofDigitChars_ofNat, Nat.ofDigitChars_replicate_zero] at hvalue
    rw [Nat.mul_comm]
    simpa using hvalue
  · exact absurd (hdigits (c := '.') (by simp)) (by decide)
  · exact absurd (hdigits (c := '.') (by simp)) (by decide)
  · exact absurd (hdigits (c := 'e') (by simp)) (by decide)
  · exact absurd (hdigits (c := 'e') (by simp)) (by decide)

theorem Decimal.comma_not_mem_toText (decimal : Decimal) : ',' ∉ decimal.toText := by
  have htake (n count : Nat) : ',' ∉ (Text.ofNat n).take count := fun hmem =>
    Text.comma_not_mem_ofNat n (List.mem_of_mem_take hmem)
  have hdrop (n count : Nat) : ',' ∉ (Text.ofNat n).drop count := fun hmem =>
    Text.comma_not_mem_ofNat n (List.mem_of_mem_drop hmem)
  simp only [toText]
  split_ifs <;> simp [Text.comma_not_mem_ofNat, htake, hdrop, -List.drop_one]
  all_goals
    split
    · exact List.not_mem_nil
    · exact List.not_mem_cons_of_ne_of_not_mem (by decide) (hdrop _ 1)

/-! ### The decimal that is printed -/

/-- Whether its ends count or not, what a rounding interval holds lies between them. -/
theorem bounds_of_reads {closed : Bool} {low point high : Nat}
    (hreads : (if closed = true then decide (low ≤ point) && decide (point ≤ high)
      else decide (low < point) && decide (point < high)) = true) : low ≤ point ∧ point ≤ high := by
  split_ifs at hreads <;> simp only [Bool.and_eq_true, decide_eq_true_eq] at hreads <;> omega

/-- A decimal that is found lies in the interval of the reals that round to the number. -/
theorem gridPoint?_reads {units : Nat} {exponent : Int} {decimal : Decimal}
    (hfound : gridPoint? units exponent = some decimal) :
    decimal.exponent = exponent ∧
      (roundingInterval units).low * (tenPow exponent).2 ≤
        decimal.digits * (4 * one * (tenPow exponent).1) ∧
      decimal.digits * (4 * one * (tenPow exponent).1) ≤
        (roundingInterval units).high * (tenPow exponent).2 := by
  simp only [gridPoint?] at hfound
  split at hfound
  · cases hfound
  · next hreads _ =>
    cases hfound
    exact ⟨rfl, bounds_of_reads hreads⟩
  · next _ hreads =>
    cases hfound
    exact ⟨rfl, bounds_of_reads hreads⟩
  · next hreads hnext =>
    split_ifs at hfound <;> cases hfound
    · exact ⟨rfl, bounds_of_reads hreads⟩
    · exact ⟨rfl, bounds_of_reads hnext⟩

/-- A search that ends without a decimal gives no digits. -/
theorem firstGridPoint_cases (units count : Nat) (exponent : Int) :
    (firstGridPoint units count exponent).digits = 0 ∨
      ∃ found, gridPoint? units found = some (firstGridPoint units count exponent) := by
  induction count generalizing exponent with
  | zero => exact .inl rfl
  | succ count ih =>
    rw [firstGridPoint]
    split
    · next point hpoint => exact .inr ⟨exponent, hpoint⟩
    · exact ih (exponent - 1)

/-- A number beyond a power of two lies on a grid that is coarse accordingly. -/
theorem gridExponent_le_of_two_pow_le {n exponent : Nat} (hle : 2 ^ exponent ≤ n) :
    exponent - 52 ≤ gridExponent n := by
  have hpos := Nat.two_pow_pos exponent
  have hlog := (Nat.le_log2 (by omega)).mpr hle
  unfold gridExponent
  omega

/-- The distance between two magnitudes of the format is at least the grid of the smaller one. -/
theorem grid_le_sub {units other : Nat} (hunits : Has53Bits units) (hother : Has53Bits other)
    (hlt : other < units) : 2 ^ gridExponent other ≤ units - other :=
  Nat.le_of_dvd (by omega) (Nat.dvd_sub (grid_dvd hlt.le hunits) (grid_dvd le_rfl hother))

/-- Below a magnitude of the format, the reals that round to it end before the next one. -/
theorem lt_low_of_lt {units other : Nat} (hunits : Has53Bits units) (hother : Has53Bits other)
    (hlt : other < units) : 4 * other < (roundingInterval units).low := by
  have hdistance := grid_le_sub hunits hother hlt
  obtain ⟨significand, hsignificand⟩ := grid_dvd le_rfl hunits
  have hgrid := Nat.two_pow_pos (gridExponent units)
  have hlog := Nat.log2_self_le (n := units) (by omega)
  have hwide : (roundingInterval units).low + 2 * 2 ^ gridExponent units ≥ 4 * units := by
    simp only [roundingInterval]
    split_ifs <;> omega
  by_contra hle
  -- On the same grid, the distance is too great.
  have hbelow : other < 2 ^ units.log2 := by
    by_contra hsame
    have hpow := Nat.pow_le_pow_right (n := 2) (by decide)
      (gridExponent_le_of_two_pow_le (Nat.le_of_not_lt hsame))
    change 2 ^ gridExponent units ≤ _ at hpow
    omega
  rcases Nat.lt_or_ge units.log2 53 with hsmall | hlarge
  · have hone : gridExponent units = 0 := by unfold gridExponent; omega
    rw [hone] at hwide
    omega
  -- The number is the first of its binade, below which the grid is twice as fine.
  · have hbinade : 2 ^ units.log2 = 2 ^ 52 * 2 ^ gridExponent units := by
      rw [← Nat.pow_add]
      congr 1
      unfold gridExponent
      omega
    have hhalf : 2 ^ gridExponent units = 2 * 2 ^ (gridExponent units - 1) := by
      rw [← Nat.pow_succ']
      congr 1
      unfold gridExponent
      omega
    have hfirst : significand = 2 ^ 52 := by
      have hlower : 2 ^ gridExponent units * 2 ^ 52 ≤ 2 ^ gridExponent units * significand := by omega
      have hupper : 2 ^ gridExponent units * significand < 2 ^ gridExponent units * (2 ^ 52 + 1) := by
        omega
      exact Nat.le_antisymm (Nat.le_of_lt_succ (Nat.lt_of_mul_lt_mul_left hupper))
        (Nat.le_of_mul_le_mul_left hlower hgrid)
    have hquotient : units / 2 ^ gridExponent units = 2 ^ 52 := by
      rw [← hfirst]
      exact Nat.div_eq_of_eq_mul_right hgrid hsignificand
    have hnear : 4 * units ≤ 4 * other + 2 ^ gridExponent units := by
      simp only [roundingInterval, hquotient, true_and] at hle
      split_ifs at hle <;> omega
    have hbinadeBelow : 2 ^ (units.log2 - 1) ≤ other := by
      have hpow : 2 ^ units.log2 = 2 * 2 ^ (units.log2 - 1) := by
        rw [← Nat.pow_succ']
        congr 1
        omega
      omega
    have hfine := Nat.pow_le_pow_right (n := 2) (by decide) (gridExponent_le_of_two_pow_le hbinadeBelow)
    rw [show units.log2 - 1 - 52 = gridExponent units - 1 by unfold gridExponent; omega] at hfine
    omega

/-- The reals that round to a magnitude of the format hold no other such magnitude. -/
theorem eq_of_mem_roundingInterval {units other : Nat} (hunits : Has53Bits units)
    (hother : Has53Bits other) (hlow : (roundingInterval units).low ≤ 4 * other)
    (hhigh : 4 * other ≤ (roundingInterval units).high) : units = other := by
  have hgrid := Nat.two_pow_pos (gridExponent units)
  rcases Nat.lt_trichotomy units other with hlt | heq | hgt
  · have hdistance := grid_le_sub hother hunits hlt
    simp only [roundingInterval] at hhigh
    omega
  · exact heq
  · exact absurd hlow (Nat.not_le_of_lt (lt_low_of_lt hunits hother hgt))

/-- A magnitude that is printed like a positive integer is that integer. -/
theorem eq_of_shortest_toText {units n : Nat} (hunits : Has53Bits units) (hpos : 0 < n)
    (hlt : n < 2 ^ 53) (htext : (shortest units).toText = Text.ofNat n) : units = n * one := by
  obtain ⟨zeros, hzeros, hvalue⟩ := Decimal.eq_of_toText htext
  rcases firstGridPoint_cases units 24 (((Nat.log2 units : Int) - 1074) * 30103 / 100000 + 2) with
    hnone | ⟨exponent, hfound⟩
  · change (shortest units).digits = 0 at hnone
    rw [hnone, Nat.zero_mul] at hvalue
    omega
  · change gridPoint? units exponent = some (shortest units) at hfound
    obtain ⟨rfl, hlow, hhigh⟩ := gridPoint?_reads hfound
    have hpoint : (shortest units).digits * (4 * one * 10 ^ zeros) = 4 * (n * one) := by
      rw [← hvalue]
      ring
    simp only [hzeros, tenPow, Int.toNat_natCast, Int.toNat_neg_natCast, Nat.pow_zero, Nat.mul_one,
      hpoint] at hlow hhigh
    exact eq_of_mem_roundingInterval hunits (has53Bits_mul_one hlt) hlow hhigh

/-! ### Printed numbers -/

/-- No number is printed with a comma, also not the words for what is no finite number. -/
theorem comma_not_mem_toText (x : Binary64) : ',' ∉ x.toText := by
  cases x with
  | nan => decide
  | infinity negative => cases negative <;> decide
  | finite negative units =>
    have hdecimal := Decimal.comma_not_mem_toText (shortest units)
    simp only [toText]
    split_ifs
    · decide
    · exact List.not_mem_cons_of_ne_of_not_mem (by decide) hdecimal
    · exact hdecimal

/-- Only a positive integer is printed like it. -/
theorem eq_ofNat_of_toText {x : Binary64} {n : Nat} (hpos : 0 < n) (hlt : n < 2 ^ 53)
    (htext : x.toText = Text.ofNat n) : x = ofNat n := by
  have hdigits {c : Char} (hmem : c ∈ x.toText) : c.isDigit = true :=
    Text.isDigit_of_mem_ofNat (htext ▸ hmem)
  cases x with
  | nan => exact absurd (hdigits (c := 'N') (by decide)) (by decide)
  | infinity negative =>
    refine absurd (hdigits (c := 'I') ?_) (by decide)
    cases negative <;> decide
  | finite negative units inRange bits =>
    simp only [toText] at htext hdigits
    split_ifs at htext hdigits with hzero hnegative
    · have hvalue := Text.ofDigitChars_ofNat n
      rw [← htext] at hvalue
      exact absurd hvalue.symm hpos.ne'
    · exact absurd (hdigits (c := '-') List.mem_cons_self) (by decide)
    · obtain rfl := eq_of_shortest_toText bits hpos hlt htext
      rw [ofNat_eq_finite hlt, Bool.eq_false_of_not_eq_true hnegative]

theorem eq_map_ofNat_of_map_toText {numbers : List Binary64} {naturals : List Nat}
    (hrange : ∀ n ∈ naturals, 0 < n ∧ n < 2 ^ 53)
    (htexts : numbers.map toText = naturals.map Text.ofNat) : numbers = naturals.map ofNat := by
  induction naturals generalizing numbers with
  | nil => exact List.map_eq_nil_iff.mp htexts
  | cons n naturals ih =>
    obtain ⟨x, numbers, rfl, hfirst, hrest⟩ := List.map_eq_cons_iff.mp htexts
    rw [List.forall_mem_cons] at hrange
    rw [eq_ofNat_of_toText hrange.1.1 hrange.1.2 hfirst, ih hrange.2 hrest, List.map_cons]

/-- Numbers that are printed like positive integers, with commas between them, are these. -/
theorem eq_map_ofNat_of_join {numbers : List Binary64} {naturals : List Nat}
    (hnonempty : naturals ≠ []) (hrange : ∀ n ∈ naturals, 0 < n ∧ n < 2 ^ 53)
    (htext : Text.join "," (numbers.map toText) = Text.join "," (naturals.map Text.ofNat)) :
    numbers = naturals.map ofNat := by
  have hnaturals : Text.splitOn ',' (Text.join [','] (naturals.map Text.ofNat)) =
      naturals.map Text.ofNat :=
    Text.splitOn_join (by simpa using hnonempty) (by simp [Text.comma_not_mem_ofNat])
  have hcut := congrArg (Text.splitOn ',') htext
  rw [show (",".toList : Text) = [','] from rfl, hnaturals] at hcut
  cases numbers with
  | nil =>
    -- Nothing is printed of no numbers, but digits of a positive integer.
    obtain ⟨n, naturals, rfl, hfirst, -⟩ := List.map_eq_cons_iff.mp hcut.symm
    have hvalue := Text.ofDigitChars_ofNat n
    rw [hfirst] at hvalue
    exact absurd hvalue.symm (hrange n List.mem_cons_self).1.ne'
  | cons x numbers =>
    rw [Text.splitOn_join (by simp) (by simp [comma_not_mem_toText])] at hcut
    exact eq_map_ofNat_of_map_toText hrange hcut

end Binary64

end ExporterAudit
