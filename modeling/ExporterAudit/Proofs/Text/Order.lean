import ExporterAudit.Text.Units
import Mathlib.Data.List.Basic

/-!
The order of texts by their UTF-16 code units is total, and no two texts share their code units.
-/

namespace ExporterAudit.Text

/-- The units of a character can be told from what follows: a leading surrogate is no character. -/
theorem charUnits_append_inj {c d : Char} {s t : List Nat}
    (h : charUnits c ++ s = charUnits d ++ t) : c = d ∧ s = t := by
  have hc : c.toNat.isValidChar := c.valid
  have hd : d.toNat.isValidChar := d.valid
  have hchar (hnat : c.toNat = d.toNat) : c = d := Char.toNat_inj.mp hnat
  simp only [Nat.isValidChar] at hc hd
  simp only [charUnits] at h
  split at h <;> split at h <;>
    simp only [List.cons_append, List.nil_append, List.cons.injEq] at h
  · exact ⟨hchar h.1, h.2⟩
  · omega
  · omega
  · exact ⟨hchar (by omega), h.2.2⟩

/-- Every character has a code unit, so no character disappears in the units of a text. -/
theorem charUnits_ne_nil (c : Char) : charUnits c ≠ [] := by
  simp only [charUnits]
  split <;> simp

/-- Texts are told apart by their code units: a first unit says whether another one belongs to its
character, and both together say which character it is. -/
theorem units_injective : Function.Injective units := by
  intro a
  induction a with
  | nil =>
    rintro (_ | ⟨d, rest⟩) h
    · rfl
    · have hempty := (List.append_eq_nil_iff.mp h.symm).1
      exact absurd hempty (charUnits_ne_nil d)
  | cons c rest ih =>
    rintro (_ | ⟨d, other⟩) h
    · have hempty := (List.append_eq_nil_iff.mp h).1
      exact absurd hempty (charUnits_ne_nil c)
    · obtain ⟨rfl, hrest⟩ := charUnits_append_inj h
      rw [ih hrest]

/-- The first units decide unless they are equal, as in a dictionary. -/
theorem unitsLe_cons_cons (x y : Nat) (xs ys : List Nat) :
    unitsLe (x :: xs) (y :: ys) = true ↔ x < y ∨ x = y ∧ unitsLe xs ys = true := by
  simp [unitsLe]

/-- Of two lists of units one comes before the other. -/
theorem unitsLe_total (a b : List Nat) : unitsLe a b = true ∨ unitsLe b a = true := by
  induction a generalizing b with
  | nil => exact .inl rfl
  | cons x xs ih =>
    cases b with
    | nil => exact .inr rfl
    | cons y ys =>
      simp only [unitsLe_cons_cons]
      rcases Nat.lt_trichotomy x y with hlt | rfl | hlt
      · exact .inl (.inl hlt)
      · exact (ih ys).imp (fun h => .inr ⟨rfl, h⟩) (fun h => .inr ⟨rfl, h⟩)
      · exact .inr (.inl hlt)

theorem unitsLe_trans {a b c : List Nat} (hab : unitsLe a b = true) (hbc : unitsLe b c = true) :
    unitsLe a c = true := by
  induction a generalizing b c with
  | nil => rfl
  | cons x xs ih =>
    cases b with
    | nil => cases hab
    | cons y ys =>
      cases c with
      | nil => cases hbc
      | cons z zs =>
        rw [unitsLe_cons_cons] at *
        rcases hab with hxy | ⟨rfl, hab⟩
        · refine .inl ?_
          rcases hbc with hyz | ⟨rfl, -⟩
          · exact Nat.lt_trans hxy hyz
          · exact hxy
        · exact hbc.imp_right fun ⟨heq, hbc⟩ => ⟨heq, ih hab hbc⟩

/-- Lists that come before each other agree in every unit. -/
theorem unitsLe_antisymm {a b : List Nat} (hab : unitsLe a b = true) (hba : unitsLe b a = true) :
    a = b := by
  induction a generalizing b with
  | nil =>
    cases b with
    | nil => rfl
    | cons y ys => cases hba
  | cons x xs ih =>
    cases b with
    | nil => cases hab
    | cons y ys =>
      rw [unitsLe_cons_cons] at hab hba
      rcases hab with hlt | ⟨rfl, hab⟩
      · rcases hba with hgt | ⟨rfl, -⟩
        · exact absurd hgt (Nat.lt_asymm hlt)
        · exact absurd hlt (Nat.lt_irrefl _)
      · rcases hba with hgt | ⟨-, hba⟩
        · exact absurd hgt (Nat.lt_irrefl _)
        · rw [ih hab hba]

theorem le_total (a b : Text) : le a b = true ∨ le b a = true :=
  unitsLe_total _ _

theorem le_trans {a b c : Text} (hab : le a b = true) (hbc : le b c = true) : le a c = true :=
  unitsLe_trans hab hbc

/-- Two texts with the same place in the order are the same text, since they share their code units.
-/
theorem le_antisymm {a b : Text} (hab : le a b = true) (hba : le b a = true) : a = b :=
  units_injective (unitsLe_antisymm hab hba)

end ExporterAudit.Text
