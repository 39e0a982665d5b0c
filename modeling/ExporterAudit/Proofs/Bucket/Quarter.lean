import ExporterAudit.Bucket
import Mathlib.Algebra.Order.Ring.Int

/-!
The quarters of an octave, on magnitudes in units. A magnitude is cut down to its three leading bits,
which is the lower edge of its quarter. Cutting is monotone also from one octave to the next, since
the last quarter of an octave ends where the next octave starts.
-/

namespace ExporterAudit.Bucket

/-! ### The octave -/

/-- Halving stops at a power of two that is not above the magnitude. -/
theorem two_pow_lowerExponent_le {units : Nat} (hpos : 0 < units) (guess : Nat) :
    2 ^ lowerExponent units guess ≤ units := by
  induction guess with
  | zero => exact hpos
  | succ guess ih =>
    rw [lowerExponent]
    split
    · exact ih
    · next hle => exact Nat.le_of_not_lt hle

/-- From any power of two below the magnitude, doubling ends at the same exponent. -/
theorem raiseExponent_eq_log2 {units exponent : Nat} (hle : 2 ^ exponent ≤ units) :
    raiseExponent units exponent = Nat.log2 units := by
  fun_induction raiseExponent units exponent with
  | case1 exponent hraise ih => exact ih hraise
  | case2 exponent hstop =>
    have hpos : units ≠ 0 := ((Nat.two_pow_pos exponent).trans_le hle).ne'
    exact ((Nat.log2_eq_iff hpos).mpr ⟨hle, Nat.lt_of_not_le hstop⟩).symm

/-- Whatever the guess, the octave found is the one that holds the magnitude. -/
theorem octaveExponent_eq_log2 {units : Nat} (hpos : 0 < units) (guess : Nat) :
    octaveExponent guess units = Nat.log2 units :=
  raiseExponent_eq_log2 (two_pow_lowerExponent_le hpos guess)

/-! ### The quarter -/

/-- The exponent of the width of the quarter that holds a magnitude. -/
def widthExponent (units : Nat) : Nat :=
  Nat.log2 units - 2

/-- The lower edge of the quarter that holds a magnitude. -/
def cut (units : Nat) : Nat :=
  units / 2 ^ widthExponent units * 2 ^ widthExponent units

/-- A magnitude holds at least four and less than eight widths of its quarter. -/
theorem octave_bounds {units : Nat} (hfour : 4 ≤ units) :
    4 * 2 ^ widthExponent units ≤ units ∧ units < 8 * 2 ^ widthExponent units := by
  have hne : units ≠ 0 := by omega
  have hlog : 2 ≤ Nat.log2 units := (Nat.le_log2 hne).mpr hfour
  have hlow := Nat.log2_self_le hne
  have hhigh := Nat.lt_log2_self (n := units)
  rw [show units.log2 = widthExponent units + 2 by unfold widthExponent; omega] at hlow hhigh
  rw [Nat.pow_add] at hlow
  rw [Nat.pow_succ, Nat.pow_add] at hhigh
  omega

theorem widthExponent_eq {units width : Nat} (hlow : 4 * 2 ^ width ≤ units)
    (hhigh : units < 8 * 2 ^ width) : widthExponent units = width := by
  have hpos := Nat.two_pow_pos width
  have hoctave : 2 ^ (width + 2) = 4 * 2 ^ width := by rw [Nat.pow_add, Nat.mul_comm]
  have hlog : Nat.log2 units = width + 2 :=
    (Nat.log2_eq_iff (by omega)).mpr ⟨by omega, by rw [Nat.pow_succ 2 (width + 2)]; omega⟩
  rw [widthExponent, hlog, Nat.add_sub_cancel]

theorem cut_le (units : Nat) : cut units ≤ units :=
  Nat.div_mul_le_self _ _

/-- What is cut off is less than the width of a quarter. -/
theorem lt_cut_add (units : Nat) : units < cut units + 2 ^ widthExponent units := by
  have hmod := Nat.mod_lt units (Nat.two_pow_pos (widthExponent units))
  have hsplit := Nat.div_add_mod' units (2 ^ widthExponent units)
  unfold cut
  omega

/-- A magnitude is cut down to one of the four quarters of its octave. -/
theorem exists_cut_eq {units : Nat} (hfour : 4 ≤ units) :
    ∃ quarter < 4, cut units = (4 + quarter) * 2 ^ widthExponent units := by
  obtain ⟨hlow, hhigh⟩ := octave_bounds hfour
  have hpos := Nat.two_pow_pos (widthExponent units)
  have hfirst : 4 ≤ units / 2 ^ widthExponent units := (Nat.le_div_iff_mul_le hpos).mpr hlow
  have hlast : units / 2 ^ widthExponent units < 8 := (Nat.div_lt_iff_lt_mul hpos).mpr hhigh
  refine ⟨units / 2 ^ widthExponent units - 4, by omega, ?_⟩
  rw [cut, Nat.add_sub_cancel' hfirst]

/-- The edges of the quarters are kept as they are. -/
theorem cut_edge {width quarter : Nat} (hquarter : quarter < 4) :
    cut ((4 + quarter) * 2 ^ width) = (4 + quarter) * 2 ^ width := by
  have hwidth : widthExponent ((4 + quarter) * 2 ^ width) = width :=
    widthExponent_eq (Nat.mul_le_mul_right _ (by omega))
      (Nat.mul_lt_mul_of_pos_right (by omega) (Nat.two_pow_pos _))
  rw [cut, hwidth, Nat.mul_div_cancel _ (Nat.two_pow_pos _)]

/-- Cutting does not leave the range in which quarters can be told apart. -/
theorem four_le_cut {units : Nat} (hfour : 4 ≤ units) : 4 ≤ cut units := by
  obtain ⟨quarter, hquarter, hcut⟩ := exists_cut_eq hfour
  have hpos := Nat.two_pow_pos (widthExponent units)
  rw [hcut]
  exact Nat.le_trans (Nat.le_add_right 4 quarter) (Nat.le_mul_of_pos_right _ hpos)

theorem cut_cut {units : Nat} (hfour : 4 ≤ units) : cut (cut units) = cut units := by
  obtain ⟨quarter, hquarter, hcut⟩ := exists_cut_eq hfour
  rw [hcut, cut_edge hquarter]

/-- Cutting keeps the order, within an octave and across octaves. -/
theorem cut_le_cut {a b : Nat} (hfour : 4 ≤ a) (hle : a ≤ b) : cut a ≤ cut b := by
  rcases Nat.lt_trichotomy (widthExponent a) (widthExponent b) with hlt | heq | hgt
  · obtain ⟨quarter, -, hcut⟩ := exists_cut_eq (hfour.trans hle)
    have hhigh := (octave_bounds hfour).2
    have hpow : 2 ^ (widthExponent a + 1) ≤ 2 ^ widthExponent b :=
      Nat.pow_le_pow_right (by decide) hlt
    calc cut a ≤ a := cut_le a
      _ ≤ 4 * 2 ^ (widthExponent a + 1) := by rw [Nat.pow_succ]; omega
      _ ≤ (4 + quarter) * 2 ^ widthExponent b := Nat.mul_le_mul (Nat.le_add_right 4 quarter) hpow
      _ = cut b := hcut.symm
  · unfold cut
    rw [heq]
    exact Nat.mul_le_mul_right _ (Nat.div_le_div_right hle)
  · have hlow := (octave_bounds hfour).1
    have hhigh := (octave_bounds (hfour.trans hle)).2
    have hpow : 2 ^ (widthExponent b + 1) ≤ 2 ^ widthExponent a :=
      Nat.pow_le_pow_right (by decide) hgt
    rw [Nat.pow_succ] at hpow
    omega

/-- Two magnitudes have one lower edge exactly if no edge separates them. -/
theorem cut_eq_cut_iff {a b : Nat} (hfour : 4 ≤ a) (hle : a ≤ b) :
    cut a = cut b ↔ ∀ width quarter, quarter < 4 →
      ¬ (a < (4 + quarter) * 2 ^ width ∧ (4 + quarter) * 2 ^ width ≤ b) := by
  constructor
  · rintro hsame width quarter hquarter ⟨habove, hbelow⟩
    have hedge := cut_le_cut (by omega) hbelow
    rw [cut_edge hquarter, ← hsame] at hedge
    have hcut := cut_le a
    omega
  · intro hnone
    obtain ⟨quarter, hquarter, hcut⟩ := exists_cut_eq (hfour.trans hle)
    have hseparates := hnone (widthExponent b) quarter hquarter
    rw [← hcut] at hseparates
    have hbelow : cut b ≤ a := by
      have hb := cut_le b
      omega
    have hback := cut_le_cut (four_le_cut (hfour.trans hle)) hbelow
    rw [cut_cut (hfour.trans hle)] at hback
    exact Nat.le_antisymm (cut_le_cut hfour hle) hback

end ExporterAudit.Bucket
