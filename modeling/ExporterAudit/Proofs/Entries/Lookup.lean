import ExporterAudit.Entries
import Mathlib.Data.List.Induction
import Mathlib.Data.List.Nodup

/-!
Entries with distinct names seen as the graph of a look-up, and the names that assignment keeps.
-/

namespace ExporterAudit.Entries

/-- With distinct names an entry cannot hide behind another one. -/
theorem lookup_eq_some_iff {κ α : Type} [BEq κ] [LawfulBEq κ] {entries : List (κ × α)}
    (hdistinct : (entries.map Prod.fst).Nodup) {name : κ} {value : α} :
    entries.lookup name = some value ↔ (name, value) ∈ entries := by
  induction entries with
  | nil => simp
  | cons entry rest ih =>
    obtain ⟨first, other⟩ := entry
    rw [List.map_cons, List.nodup_cons] at hdistinct
    by_cases h : name = first
    · subst h
      have habsent : (name, value) ∉ rest := fun hmem =>
        hdistinct.1 (List.mem_map.mpr ⟨_, hmem, rfl⟩)
      simp [habsent, eq_comm]
    · have hname : (name == first) = false := by simpa using h
      simp [List.lookup_cons, hname, h, ih hdistinct.2]

variable {α : Type}

theorem mem_names_assign {entries : List (Text × α)} {name other : Text} {value : α}
    (hmem : other ∈ (assign entries name value).map Prod.fst) :
    other = name ∨ other ∈ entries.map Prod.fst := by
  unfold assign at hmem
  split at hmem
  · rw [map_fst_replace] at hmem
    exact .inr hmem
  · simpa using ((place_perm name value entries).map Prod.fst).subset hmem

theorem lookup_cons_eq_ite (entry : Text × α) (rest : List (Text × α)) (name : Text) :
    (entry :: rest).lookup name = if name = entry.1 then some entry.2 else rest.lookup name := by
  rw [List.lookup_cons]
  by_cases hsame : name = entry.1
  · rw [if_pos hsame, beq_iff_eq.mpr hsame]
  · rw [if_neg hsame, beq_eq_false_iff_ne.mpr hsame]

theorem lookup_replace (entries : List (Text × α)) (name : Text) (value : α) (other : Text) :
    (replace entries name value).lookup other =
      if other = name then (entries.lookup name).map fun _ => value else entries.lookup other := by
  induction entries with
  | nil => simp [replace]
  | cons entry rest ih =>
    rw [replace] at ih
    rw [replace, List.map_cons, lookup_cons_eq_ite, lookup_cons_eq_ite, lookup_cons_eq_ite, ih]
    by_cases hentry : entry.1 = name
    · rw [if_pos hentry, hentry, if_pos rfl]
      by_cases hother : other = name <;> simp [hother]
    · rw [if_neg hentry, if_neg (Ne.symm hentry)]
      by_cases hother : other = name
      · rw [hother, if_neg (Ne.symm hentry)]
        simp
      · rw [if_neg hother, if_neg hother]

theorem lookup_place {entries : List (Text × α)} {name : Text}
    (hnew : name ∉ entries.map Prod.fst) (value : α) (other : Text) :
    (place name value entries).lookup other =
      if other = name then some value else entries.lookup other := by
  induction entries with
  | nil => exact lookup_cons_eq_ite (name, value) [] other
  | cons entry rest ih =>
    rw [List.map_cons, List.mem_cons, not_or] at hnew
    have hrest := ih hnew.2
    rw [place]
    split
    · exact lookup_cons_eq_ite (name, value) (entry :: rest) other
    · rw [lookup_cons_eq_ite, lookup_cons_eq_ite, hrest]
      by_cases hother : other = name
      · rw [hother, if_neg hnew.1, if_pos rfl, if_pos rfl]
      · rw [if_neg hother, if_neg hother]

/-- Assigning is updating: afterwards the name has the value and all others are as before. -/
theorem lookup_assign (entries : List (Text × α)) (name : Text) (value : α) (other : Text) :
    (assign entries name value).lookup other =
      if other = name then some value else entries.lookup other := by
  rw [assign]
  split
  · next hassigned =>
    obtain ⟨entry, hmem, hname⟩ := List.any_eq_true.mp hassigned
    have hsome : (entries.lookup name).isSome = true :=
      List.lookup_isSome_iff.mpr ⟨entry, hmem, beq_iff_eq.mpr (of_decide_eq_true hname).symm⟩
    obtain ⟨before, hbefore⟩ := Option.isSome_iff_exists.mp hsome
    rw [lookup_replace, hbefore]
    rfl
  · next hnew => exact lookup_place (by simpa [has] using hnew) value other

/-- Of several assignments of a name the last one counts. -/
theorem lookup_ofPairs (pairs : List (Text × α)) (name : Text) :
    (ofPairs pairs).lookup name = pairs.reverse.lookup name := by
  induction pairs using List.reverseRecOn with
  | nil => rfl
  | append_singleton pairs pair ih =>
    rw [List.reverse_append, List.reverse_singleton, List.singleton_append, lookup_cons_eq_ite, ← ih,
      ← lookup_assign, ofPairs, List.foldl_append]
    rfl

/-- Assignments of distinct names all count. -/
theorem lookup_ofPairs_eq_some_iff {pairs : List (Text × α)} (hdistinct : (pairs.map Prod.fst).Nodup)
    {name : Text} {value : α} :
    (ofPairs pairs).lookup name = some value ↔ (name, value) ∈ pairs := by
  rw [lookup_ofPairs, lookup_eq_some_iff, List.mem_reverse]
  rwa [List.map_reverse, List.nodup_reverse]

end ExporterAudit.Entries
