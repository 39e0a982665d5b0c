import ExporterAudit.Record
import ExporterAudit.Proofs.BucketCounts.Lookup
import Mathlib.Data.List.Forall2
import Mathlib.Data.List.NodupEquivFin
import Mathlib.Data.List.Perm.Basic

/-!
Comparison of record lists. Each expected record takes the first equal actual record that is left.
Equality of records is symmetric and transitive, though not reflexive, so this choice finds a
one-to-one matching whenever there is one.
-/

namespace ExporterAudit

/-- A one-to-one pairing of the positions of two lists, related elements at paired positions. -/
def Matched {α β : Type} (r : α → β → Prop) (actual : List α) (expected : List β) : Prop :=
  ∃ position : Fin expected.length ≃ Fin actual.length,
    ∀ j, r (actual.get (position j)) (expected.get j)

/-- A pairing of positions is a rearrangement that relates the lists place by place. -/
theorem matched_iff_perm_forall₂ {α β : Type} {r : α → β → Prop}
    {actual : List α} {expected : List β} :
    Matched r actual expected ↔
      ∃ arranged, arranged.Perm actual ∧ List.Forall₂ r arranged expected := by
  constructor
  · rintro ⟨position, hrelated⟩
    refine ⟨(List.finRange expected.length).map fun j => actual.get (position j), ?_, ?_⟩
    · have hpositions : ((List.finRange expected.length).map position).Perm
          (List.finRange actual.length) := by
        refine (List.perm_ext_iff_of_nodup ((List.nodup_finRange _).map position.injective)
          (List.nodup_finRange _)).mpr fun i => ?_
        simpa using ⟨position.symm i, position.apply_symm_apply i⟩
      have hvalues := hpositions.map actual.get
      rwa [List.map_map, List.map_get_finRange] at hvalues
    · refine List.forall₂_iff_get.mpr ⟨by simp, fun i _ hi => ?_⟩
      simpa using hrelated ⟨i, hi⟩
  · rintro ⟨arranged, hperm, hrelated⟩
    rw [← List.map_get_finRange actual] at hperm
    have hcomp : Relation.Comp (· = List.map actual.get ·) List.Perm arranged
        (List.finRange actual.length) := by
      rw [List.eq_map_comp_perm]
      exact hperm
    obtain ⟨positions, rfl, hpositions⟩ := hcomp
    have hnodup : positions.Nodup := hpositions.nodup_iff.mpr (List.nodup_finRange _)
    have hall (i : Fin actual.length) : i ∈ positions := hpositions.mem_iff.mpr (List.mem_finRange i)
    obtain ⟨hlength, hget⟩ := List.forall₂_iff_get.mp hrelated
    rw [List.length_map] at hlength
    refine ⟨(finCongr hlength.symm).trans (hnodup.getEquivOfForallMemList positions hall), fun j => ?_⟩
    simpa using hget j.val (by simp [hlength]) j.isLt

/-- A related element can stand in for another one of the same class in a matching. -/
theorem Matched.exchange {α β : Type} {r : α → β → Prop} {kept taken : α} {rest : List α}
    {expected : List β} (hstand : ∀ e, r kept e → r taken e)
    (h : Matched r (kept :: rest) expected) : Matched r (taken :: rest) expected := by
  rw [matched_iff_perm_forall₂] at *
  obtain ⟨arranged, hperm, hrelated⟩ := h
  obtain ⟨ordered, hordered, hexpected⟩ := List.perm_comp_forall₂ hperm.symm hrelated
  cases hordered with
  | cons hhead htail =>
    have hcomp : Relation.Comp (List.Forall₂ r) List.Perm (taken :: rest) expected :=
      ⟨_, .cons (hstand _ hhead) htail, hexpected⟩
    rw [List.forall₂_comp_perm_eq_perm_comp_forall₂] at hcomp
    obtain ⟨arranged', hperm', hrelated'⟩ := hcomp
    exact ⟨arranged', hperm'.symm, hrelated'⟩

theorem Matched.perm_left {α β : Type} {r : α → β → Prop} {actual actual' : List α}
    {expected : List β} (hperm : actual.Perm actual') (h : Matched r actual expected) :
    Matched r actual' expected := by
  rw [matched_iff_perm_forall₂] at *
  obtain ⟨arranged, harranged, hrelated⟩ := h
  exact ⟨arranged, harranged.trans hperm, hrelated⟩

theorem Matched.symm {α : Type} {r : α → α → Prop} (hsymm : ∀ a b, r a b → r b a)
    {actual expected : List α} (h : Matched r actual expected) : Matched r expected actual := by
  obtain ⟨position, hrelated⟩ := h
  refine ⟨position.symm, fun j => hsymm _ _ ?_⟩
  simpa using hrelated (position.symm j)

namespace Value

theorem same_comm (a b : Value) : a.same b = b.same a := by
  cases a with
  | scalar x =>
    cases b with
    | scalar y => exact Binary64.equals_comm x y
    | histogram y => rfl
  | histogram x =>
    cases b with
    | scalar y => rfl
    | histogram y =>
      rw [Bool.eq_iff_iff]
      simp only [same, BucketCounts.same_iff_agree]
      exact ⟨BucketCounts.Agree.symm, BucketCounts.Agree.symm⟩

theorem same_trans {a b c : Value} (hab : a.same b = true) (hbc : b.same c = true) :
    a.same c = true := by
  cases a <;> cases b <;> cases c <;> simp only [same, Bool.false_eq_true] at hab hbc ⊢
  case scalar.scalar.scalar => exact Binary64.equals_trans hab hbc
  case histogram.histogram.histogram =>
    rw [BucketCounts.same_iff_agree] at *
    exact hab.trans hbc

end Value

namespace Record

theorem same_comm (a b : Record) : a.same b = b.same a :=
  Value.same_comm a.value b.value

theorem same_trans {a b c : Record} (hab : a.same b = true) (hbc : b.same c = true) :
    a.same c = true :=
  Value.same_trans hab hbc

/-- Taking the first equal record leaves all the others. -/
theorem removeSame?_eq_some {record : Record} {actual remaining : List Record}
    (h : removeSame? record actual = some remaining) :
    ∃ taken, taken.same record = true ∧ actual.Perm (taken :: remaining) := by
  induction actual generalizing remaining with
  | nil => simp [removeSame?] at h
  | cons candidate rest ih =>
    rw [removeSame?] at h
    split at h
    · next hsame =>
      cases h
      exact ⟨candidate, hsame, .refl _⟩
    · obtain ⟨left, hleft, rfl⟩ := Option.map_eq_some_iff.mp h
      obtain ⟨taken, hsame, hperm⟩ := ih hleft
      exact ⟨taken, hsame, (hperm.cons candidate).trans (.swap _ _ _)⟩

/-- Nothing is taken only if nothing that is left is the same. -/
theorem removeSame?_eq_none {record : Record} {actual : List Record}
    (h : removeSame? record actual = none) : ∀ candidate ∈ actual, candidate.same record = false := by
  induction actual with
  | nil => simp
  | cons candidate rest ih =>
    rw [removeSame?] at h
    split at h
    · cases h
    · next hdiffers =>
      have htail := ih (Option.map_eq_none_iff.mp h)
      simpa using ⟨by simpa using hdiffers, htail⟩

/-- The greedy choice never misses a matching: whatever record a matching gives to the first
expected one, the record taken instead equals it and can change places with it. -/
theorem sameRecords_iff_matched {actual expected : List Record} :
    sameRecords actual expected = true ↔ Matched (fun a e => a.same e = true) actual expected := by
  induction expected generalizing actual with
  | nil =>
    rw [sameRecords, List.isEmpty_iff, matched_iff_perm_forall₂]
    constructor
    · rintro rfl
      exact ⟨[], .refl _, .nil⟩
    · rintro ⟨arranged, hperm, hnil⟩
      cases hnil
      exact hperm.symm.eq_nil
  | cons record expected ih =>
    rw [sameRecords]
    cases hremove : removeSame? record actual with
    | none =>
      simp only [Bool.false_eq_true, false_iff]
      intro hmatched
      obtain ⟨arranged, hperm, hrelated⟩ := matched_iff_perm_forall₂.mp hmatched
      cases hrelated with
      | cons hhead _ =>
        have hdiffers := removeSame?_eq_none hremove _ (hperm.subset List.mem_cons_self)
        simp [hhead] at hdiffers
    | some remaining =>
      obtain ⟨taken, hsame, hactual⟩ := removeSame?_eq_some hremove
      simp only [ih]
      constructor
      · intro hmatched
        obtain ⟨arranged, hperm, hrelated⟩ := matched_iff_perm_forall₂.mp hmatched
        exact matched_iff_perm_forall₂.mpr
          ⟨taken :: arranged, (hperm.cons taken).trans hactual.symm, .cons hsame hrelated⟩
      · intro hmatched
        obtain ⟨arranged, hperm, hrelated⟩ := matched_iff_perm_forall₂.mp hmatched
        cases hrelated with
        | @cons head _ others _ hhead htail =>
          have hothers := matched_iff_perm_forall₂.mpr ⟨others, .refl _, htail⟩
          have hall := hperm.trans hactual
          rcases List.mem_cons.mp (hall.subset List.mem_cons_self) with rfl | hmem
          · exact hothers.perm_left hall.cons_inv
          · have hleft := List.perm_cons_erase hmem
            have hswap : others.Perm (taken :: remaining.erase head) :=
              ((hall.trans (hleft.cons taken)).trans (.swap _ _ _)).cons_inv
            have hequal : head.same taken = true := same_trans hhead (same_comm taken record ▸ hsame)
            exact ((hothers.perm_left hswap).exchange fun e => same_trans hequal).perm_left hleft.symm

theorem sameRecords_comm (actual expected : List Record) :
    sameRecords actual expected = sameRecords expected actual := by
  have hsymm (a e : Record) (h : a.same e = true) : e.same a = true := same_comm a e ▸ h
  rw [Bool.eq_iff_iff, sameRecords_iff_matched, sameRecords_iff_matched]
  exact ⟨Matched.symm hsymm, Matched.symm hsymm⟩

theorem sameRecords_perm_left {actual actual' : List Record} (hperm : actual.Perm actual')
    (expected : List Record) : sameRecords actual expected = sameRecords actual' expected := by
  rw [Bool.eq_iff_iff, sameRecords_iff_matched, sameRecords_iff_matched]
  exact ⟨Matched.perm_left hperm, Matched.perm_left hperm.symm⟩

/-- Comparison decides whether the positions of the lists can be paired one to one with equal
records at paired positions. Hence neither the order within a list nor the order of the two lists
matters. -/
theorem sameRecords_decides_multiset_equality (actual expected : List Record) :
    (sameRecords actual expected = true ↔
      ∃ position : Fin expected.length ≃ Fin actual.length,
        ∀ j, (actual.get (position j)).same (expected.get j) = true) ∧
    (∀ actual' expected', actual.Perm actual' → expected.Perm expected' →
      sameRecords actual' expected' = sameRecords actual expected) ∧
    sameRecords expected actual = sameRecords actual expected := by
  refine ⟨sameRecords_iff_matched, fun actual' expected' hactual hexpected => ?_,
    sameRecords_comm expected actual⟩
  calc sameRecords actual' expected'
      = sameRecords actual expected' := (sameRecords_perm_left hactual expected').symm
    _ = sameRecords expected' actual := sameRecords_comm actual expected'
    _ = sameRecords expected actual := (sameRecords_perm_left hexpected actual).symm
    _ = sameRecords actual expected := sameRecords_comm expected actual

end Record

end ExporterAudit
