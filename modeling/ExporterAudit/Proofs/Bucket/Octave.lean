import ExporterAudit.Proofs.Bucket.LowerEdge

/-!
The search for the octave of a value, in the arithmetic of the format. From some power of two it halves
while the number is above the value, and then doubles while twice the number is not. Both loops end
wherever they start in the format, at one power of two, and neither undoes a round of the other. From
infinity there is no end, and this is where the search starts for the last numbers of the format.
-/

namespace ExporterAudit

/-- A loop that ends: the body is applied as long as the test holds. -/
inductive Loop {α : Type} (test : α → Bool) (body : α → α) : (rounds : Nat) → α → α → Prop
  | done {a : α} (hstops : test a = false) : Loop test body 0 a a
  | round {rounds : Nat} {a last : α} (hgoes : test a = true)
      (hrest : Loop test body rounds (body a) last) : Loop test body (rounds + 1) a last

/-- A loop that ends has one end. -/
theorem Loop.unique {α : Type} {test : α → Bool} {body : α → α} {rounds others : Nat} {a last other : α}
    (hloop : Loop test body rounds a last) (hother : Loop test body others a other) :
    others = rounds ∧ other = last := by
  induction hloop generalizing others with
  | done hstops =>
    cases hother with
    | done => exact ⟨rfl, rfl⟩
    | round hgoes => exact absurd hgoes (by simp [hstops])
  | round hgoes _ ih =>
    cases hother with
    | done hstops => exact absurd hgoes (by simp [hstops])
    | round _ hrest =>
      obtain ⟨rfl, rfl⟩ := ih hrest
      exact ⟨rfl, rfl⟩

/-- The number of rounds and the end of a loop follow from where it starts. -/
theorem Loop.iff {α : Type} {test : α → Bool} {body : α → α} {rounds : Nat} {a last : α}
    (hloop : Loop test body rounds a last) (others : Nat) (other : α) :
    Loop test body others a other ↔ others = rounds ∧ other = last :=
  ⟨hloop.unique, fun ⟨hrounds, hlast⟩ => hrounds ▸ hlast ▸ hloop⟩

/-- A loop that comes back to where it is has no end. -/
theorem Loop.not_of_fixed {α : Type} {test : α → Bool} {body : α → α} {a : α} (hgoes : test a = true)
    (hfixed : body a = a) (rounds : Nat) (last : α) : ¬ Loop test body rounds a last := by
  induction rounds with
  | zero =>
    rintro ⟨hstops⟩
    exact absurd hgoes (by simp [hstops])
  | succ rounds ih =>
    rintro (_ | ⟨-, hrest⟩)
    rw [hfixed] at hrest
    exact ih hrest

namespace Bucket

open Binary64

/-- Halves a number while it is above the value. -/
def Lowers (value : Binary64) : (rounds : Nat) → (low last : Binary64) → Prop :=
  Loop (fun low => value.lt low) fun low => low / 2

/-- Doubles a number while twice the number is not above the value. -/
def Raises (value : Binary64) : (rounds : Nat) → (low last : Binary64) → Prop :=
  Loop (fun low => (low * 2).le value) fun low => low * 2

/-! ### Powers of two in the format -/

theorem hasUnits_two : (2 : Binary64).HasUnits (2 * one) :=
  hasUnits_ofNat (by decide)

/-- Halving a power of two is exact down to one unit. -/
theorem powerOfTwo_div_two {exponent : Nat} (hlt : 2 ^ (exponent + 1) < overflow) :
    powerOfTwo (exponent + 1) / 2 = powerOfTwo exponent := by
  have hhalf : 2 ^ exponent < overflow :=
    (Nat.pow_le_pow_right (by decide) exponent.le_succ).trans_lt hlt
  have hdivided : (powerOfTwo (exponent + 1) / 2).HasUnits (2 ^ exponent) := by
    apply (hasUnits_powerOfTwo hlt).div hasUnits_two
    · exact Nat.mul_pos (by decide) Binary64.one_pos
    · rw [Nat.pow_succ, Nat.mul_assoc]
    · exact hhalf
    · exact has53Bits_two_pow exponent
  exact (hdivided.eq_iff (hasUnits_powerOfTwo hhalf)).mpr rfl

/-- Doubling a power of two is exact, and leaves the range at its end. -/
theorem powerOfTwo_mul_two {exponent : Nat} (hlt : 2 ^ exponent < overflow) :
    powerOfTwo exponent * 2 = powerOfTwo (exponent + 1) := by
  obtain ⟨inRange, bits, hpower⟩ := hasUnits_powerOfTwo hlt
  obtain ⟨inRange', bits', htwo⟩ := hasUnits_two
  have hproduct : 2 ^ exponent * (2 * one) = 2 ^ (exponent + 1) * one := by
    rw [Nat.pow_succ, Nat.mul_assoc]
  have hbits := has53Bits_two_pow (exponent + 1)
  rw [hpower, htwo, powerOfTwo]
  change Binary64.mul _ _ = _
  simp only [Binary64.mul, Bool.xor_false, hproduct, ofRatio, roundUnits_mul_self hbits Binary64.one_pos,
    roundUnits_eq_self hbits]

theorem lt_powerOfTwo_iff {value : Binary64} {units : Nat} (hvalue : value.HasUnits units) {exponent : Nat}
    (hlt : 2 ^ exponent < overflow) : value.lt (powerOfTwo exponent) = true ↔ units < 2 ^ exponent :=
  hvalue.lt_iff (hasUnits_powerOfTwo hlt)

/-- The test of the second loop, also at infinity, which no finite magnitude reaches. -/
theorem powerOfTwo_le_iff {value : Binary64} {units : Nat} (hvalue : value.HasUnits units) (exponent : Nat) :
    (powerOfTwo exponent).le value = true ↔ 2 ^ exponent ≤ units := by
  obtain ⟨inRange, bits, rfl⟩ := hvalue
  by_cases hlt : 2 ^ exponent < overflow
  · obtain ⟨inRange', bits', hpower⟩ := hasUnits_powerOfTwo hlt
    rw [hpower]
    simp only [le, rank?, signed, Bool.false_eq_true, ↓reduceIte, decide_eq_true_eq]
    exact Int.ofNat_le
  · rw [powerOfTwo_of_overflow_le (Nat.le_of_not_lt hlt)]
    simp only [le, rank?, signed, Bool.false_eq_true, ↓reduceIte, decide_eq_true_eq]
    omega

/-! ### The two loops -/

/-- Lowering stops at the octave of the value, or does not start. -/
theorem lowerExponent_eq_min {units : Nat} (hpos : 0 < units) (guess : Nat) :
    lowerExponent units guess = min guess (Nat.log2 units) := by
  induction guess with
  | zero => simp [lowerExponent]
  | succ guess ih =>
    have habove : units < 2 ^ (guess + 1) ↔ Nat.log2 units < guess + 1 := (Nat.log2_lt hpos.ne').symm
    rw [lowerExponent]
    split <;> omega

/-- The first loop halves as often as the exponent is too large. -/
theorem lowers_powerOfTwo {value : Binary64} {units : Nat} (hvalue : value.HasUnits units)
    (hpos : 0 < units) {exponent : Nat} (hlt : 2 ^ exponent < overflow) :
    Lowers value (exponent - Nat.log2 units) (powerOfTwo exponent)
      (powerOfTwo (lowerExponent units exponent)) := by
  induction exponent with
  | zero =>
    rw [Nat.zero_sub, lowerExponent]
    apply Loop.done
    rw [Bool.eq_false_iff, Ne, lt_powerOfTwo_iff hvalue hlt]
    omega
  | succ exponent ih =>
    have habove : units < 2 ^ (exponent + 1) ↔ Nat.log2 units < exponent + 1 := (Nat.log2_lt hpos.ne').symm
    rw [lowerExponent]
    split
    · next hgoes =>
      have hhalf : 2 ^ exponent < overflow :=
        (Nat.pow_le_pow_right (by decide) exponent.le_succ).trans_lt hlt
      rw [Nat.succ_sub (by omega)]
      apply Loop.round
      · exact (lt_powerOfTwo_iff hvalue hlt).mpr hgoes
      · rw [powerOfTwo_div_two hlt]
        exact ih hhalf
    · next hstops =>
      rw [show exponent + 1 - Nat.log2 units = 0 by omega]
      apply Loop.done
      rwa [Bool.eq_false_iff, Ne, lt_powerOfTwo_iff hvalue hlt]

/-- The second loop doubles as often as the exponent is too small. -/
theorem raises_powerOfTwo {value : Binary64} {units : Nat} (hvalue : value.HasUnits units) {exponent : Nat}
    (hle : 2 ^ exponent ≤ units) :
    Raises value (Nat.log2 units - exponent) (powerOfTwo exponent)
      (powerOfTwo (raiseExponent units exponent)) := by
  have hne : units ≠ 0 := ((Nat.two_pow_pos exponent).trans_le hle).ne'
  fun_induction raiseExponent units exponent with
  | case1 exponent hraise ih =>
    have hlog : exponent + 1 ≤ Nat.log2 units := (Nat.le_log2 hne).mpr hraise
    have hdoubled := powerOfTwo_mul_two (hle.trans_lt hvalue.lt_overflow)
    rw [show Nat.log2 units - exponent = Nat.log2 units - (exponent + 1) + 1 by omega]
    apply Loop.round
    · rw [hdoubled]
      exact (powerOfTwo_le_iff hvalue _).mpr hraise
    · rw [hdoubled]
      exact ih hraise
  | case2 exponent hstop =>
    have hlog : ¬ exponent + 1 ≤ Nat.log2 units := fun hraise => hstop ((Nat.le_log2 hne).mp hraise)
    rw [show Nat.log2 units - exponent = 0 by omega]
    apply Loop.done
    rwa [powerOfTwo_mul_two (hle.trans_lt hvalue.lt_overflow), Bool.eq_false_iff, Ne,
      powerOfTwo_le_iff hvalue]

/-- From infinity the halving has no end. -/
theorem not_lowers_infinity {value : Binary64} {units : Nat} (hvalue : value.HasUnits units)
    (rounds : Nat) (last : Binary64) : ¬ Lowers value rounds (.infinity false) last := by
  apply Loop.not_of_fixed
  · obtain ⟨inRange, bits, rfl⟩ := hvalue
    simpa [lt, rank?, signed] using inRange
  · rw [literal_eq_ofNat, ofNat_eq_finite (by decide)]
    rfl

/-- No end is told of a value exactly if the halving has none from where the search starts. -/
theorem ofValue_eq_endless_iff {value : Binary64} {units : Nat} (hvalue : value.HasUnits units)
    (hpos : 0 < units) : ofValue value = .error (.endless value) ↔
      ∀ rounds last, ¬ Lowers value rounds (powerOfTwo (logExponent units)) last := by
  have hstart : logExponent units < 2098 ↔ lt value searchEnd = true := by
    rw [hvalue.lt_iff hasUnits_searchEnd, logExponent_lt_iff hpos hvalue.lt_overflow]
  rw [ofValue_eq hvalue hpos]
  by_cases hlt : lt value searchEnd = true
  · have hends := lowers_powerOfTwo hvalue hpos (two_pow_lt_overflow_iff.mpr (hstart.mpr hlt))
    rw [if_pos hlt]
    exact iff_of_false (fun hnone => by cases hnone) fun hnever => hnever _ _ hends
  · rw [if_neg hlt, powerOfTwo_eq_infinity_iff.mpr (Nat.le_of_not_lt (mt hstart.mp hlt))]
    exact iff_of_true rfl (not_lowers_infinity hvalue)

/-! ### The octave as a rational number -/

theorem toRat_powerOfTwo {exponent : Nat} (hlt : 2 ^ exponent < overflow) :
    (powerOfTwo exponent).toRat = 2 ^ ((exponent : ℤ) - 1074) := by
  rw [(hasUnits_powerOfTwo hlt).toRat, zpow_sub₀ two_ne_zero, zpow_natCast, Nat.cast_pow, Nat.cast_ofNat]

/-- A positive number lies in one octave. -/
theorem exponent_unique {value : ℚ} {j k : ℤ} (hj : 2 ^ j ≤ value) (hj' : value < 2 * 2 ^ j)
    (hk : 2 ^ k ≤ value) (hk' : value < 2 * 2 ^ k) : j = k := by
  rw [← zpow_one_add₀ two_ne_zero] at hj' hk'
  have hone : (1 : ℚ) < 2 := by norm_num
  have hbelow := (zpow_lt_zpow_iff_right₀ hone).mp (hj.trans_lt hk')
  have habove := (zpow_lt_zpow_iff_right₀ hone).mp (hk.trans_lt hj')
  omega

/-- From every power of two of the format the two loops end, and they end at the power of two whose
octave holds the value: halving takes as many rounds as the start lies above it, doubling as many as
the start lies below. They pass through the powers of two that the search on exponents finds, and the
bucket of a value before the end of the search is cut in the octave where they end. -/
theorem octave_found_from_any_start {value : Binary64} (hfinite : value.isFinite = true)
    (hpos : Binary64.lt 0 value = true) :
    ∃ (units : Nat) (k : ℤ) (low : Binary64), value.HasUnits units ∧
      low.isFinite = true ∧ low.toRat = 2 ^ k ∧ 2 ^ k ≤ value.toRat ∧ value.toRat < 2 * 2 ^ k ∧
      (∀ j : ℤ, 2 ^ j ≤ value.toRat → value.toRat < 2 * 2 ^ j → j = k) ∧
      (lt value searchEnd = true → ofValue value = .ok (lowerEdge low value)) ∧
      ∀ guess : ℤ, -1074 ≤ guess → guess ≤ 1023 →
        (powerOfTwo (guess + 1074).toNat).toRat = 2 ^ guess ∧
        (∀ rounds last, Lowers value rounds (powerOfTwo (guess + 1074).toNat) last ↔
          rounds = (guess - k).toNat ∧
            last = powerOfTwo (lowerExponent units (guess + 1074).toNat)) ∧
        (∀ rounds last,
          Raises value rounds (powerOfTwo (lowerExponent units (guess + 1074).toNat)) last ↔
            rounds = (k - guess).toNat ∧ last = low) ∧
        powerOfTwo (octaveExponent (guess + 1074).toNat units) = low := by
  obtain ⟨units, hvalue, hunits⟩ := exists_hasUnits_of_pos hfinite hpos
  have hlow := Nat.log2_self_le hunits.ne'
  have hlowUnits := hasUnits_powerOfTwo (hlow.trans_lt hvalue.lt_overflow)
  have hstart := (hvalue.two_pow_le_iff (Nat.log2 units)).mpr hlow
  have hend := (hvalue.lt_two_mul_two_pow_iff (Nat.log2 units)).mpr Nat.lt_log2_self
  refine ⟨units, (Nat.log2 units : ℤ) - 1074, powerOfTwo (Nat.log2 units), hvalue, hlowUnits.isFinite,
    toRat_powerOfTwo (hlow.trans_lt hvalue.lt_overflow), hstart, hend, ?_, ofValue_of_lt hvalue hunits, ?_⟩
  · intro j hj hj'
    exact exponent_unique hj hj' hstart hend
  · intro guess hlower hupper
    obtain ⟨exponent, rfl⟩ : ∃ exponent : ℕ, guess = (exponent : ℤ) - 1074 :=
      ⟨(guess + 1074).toNat, by omega⟩
    have hrange := two_pow_lt_overflow_iff.mpr (show exponent < 2098 by omega)
    have hlowers := lowers_powerOfTwo hvalue hunits hrange
    have hraises := raises_powerOfTwo hvalue (two_pow_lowerExponent_le hunits exponent)
    have hfound := octaveExponent_eq_log2 hunits exponent
    rw [show raiseExponent units _ = _ from hfound] at hraises
    have hmin := lowerExponent_eq_min hunits exponent
    rw [show ((exponent : ℤ) - 1074 + 1074).toNat = exponent by omega]
    refine ⟨toRat_powerOfTwo hrange, ?_, ?_, by rw [hfound]⟩
    · rw [show ((exponent : ℤ) - 1074 - ((Nat.log2 units : ℤ) - 1074)).toNat = exponent - Nat.log2 units by
        omega]
      exact hlowers.iff
    · rw [show ((Nat.log2 units : ℤ) - 1074 - ((exponent : ℤ) - 1074)).toNat =
        Nat.log2 units - lowerExponent units exponent by omega]
      exact hraises.iff

theorem octave_found_from_any_start_farStarts :
    isFinite 3 = true ∧ Binary64.lt 0 3 = true ∧
      ∃ low : Binary64, low.toRat = 2 ∧
        (∃ halved, Lowers 3 1022 (powerOfTwo 2097) halved ∧ Raises 3 0 halved low) ∧
        ∃ halved, Lowers 3 0 (powerOfTwo 0) halved ∧ Raises 3 1075 halved low := by
  have hthree : HasUnits 3 (3 * one) := hasUnits_ofNat (by decide)
  have hfinite : isFinite 3 = true := hthree.isFinite
  have hpos : Binary64.lt 0 3 = true := hthree.zero_lt_iff.mpr (Nat.mul_pos (by decide) Binary64.one_pos)
  obtain ⟨units, k, low, -, -, hlow, -, -, hunique, -, hsearch⟩ := octave_found_from_any_start hfinite hpos
  have hvalue : toRat 3 = 3 := toRat_ofNat (n := 3) (by decide)
  obtain rfl : 1 = k := hunique 1 (by rw [hvalue]; norm_num) (by rw [hvalue]; norm_num)
  obtain ⟨-, hdown, hstay, -⟩ := hsearch 1023 (by norm_num) le_rfl
  obtain ⟨-, hrest, hup, -⟩ := hsearch (-1074) le_rfl (by norm_num)
  refine ⟨hfinite, hpos, low, by rw [hlow, zpow_one], ⟨_, ?_, (hstay _ _).mpr ⟨rfl, rfl⟩⟩,
    _, ?_, (hup _ _).mpr ⟨rfl, rfl⟩⟩
  · exact (hdown _ _).mpr ⟨rfl, rfl⟩
  · exact (hrest _ _).mpr ⟨rfl, rfl⟩

end Bucket

end ExporterAudit
