import ExporterAudit.Entries
import Mathlib.Data.List.Induction

/-!
The order in which entries iterate. Assignments keep entries in that order, and entries in that order
are what assigning them one after another leaves.
-/

namespace ExporterAudit.Entries

variable {α : Type}

/-- A later name goes to the front of an earlier one only if it is an index, and the smaller one if
both are. -/
theorem precedes_iff {later earlier : Text} :
    precedes later earlier = true ↔
      ∃ i, index? later = some i ∧ ∀ j ∈ index? earlier, i < j := by
  unfold precedes
  cases index? later <;> cases index? earlier <;> simp

/-- A name that iterates before another one goes before all that follow that one. -/
theorem not_precedes_of_precedes {name other next : Text} (hbefore : precedes name other = true)
    (hnext : precedes next other = false) : precedes next name = false := by
  rw [Bool.eq_false_iff] at hnext ⊢
  intro hearlier
  obtain ⟨i, hname, hother⟩ := precedes_iff.mp hbefore
  obtain ⟨j, hindex, hlower⟩ := precedes_iff.mp hearlier
  have hlt := hlower i hname
  apply hnext
  exact precedes_iff.mpr ⟨j, hindex, fun k hk => Nat.lt_trans hlt (hother k hk)⟩

theorem precedes_self (name : Text) : precedes name name = false := by
  rw [Bool.eq_false_iff]
  intro hself
  obtain ⟨i, hindex, hlower⟩ := precedes_iff.mp hself
  exact Nat.lt_irrefl i (hlower i hindex)

/-- Names in iteration order: none would be put before an earlier one. -/
def Ordered (entries : List (Text × α)) : Prop :=
  (entries.map Prod.fst).Pairwise fun earlier later => precedes later earlier = false

theorem mem_names_place {entries : List (Text × α)} {name other : Text} {value : α} :
    other ∈ (place name value entries).map Prod.fst ↔ other = name ∨ other ∈ entries.map Prod.fst := by
  rw [((place_perm name value entries).map Prod.fst).mem_iff, List.map_cons, List.mem_cons]

/-- A name is placed behind all entries that it does not precede, which keeps the order. -/
theorem Ordered.place {entries : List (Text × α)} (hordered : Ordered entries) (name : Text)
    (value : α) : Ordered (place name value entries) := by
  induction entries with
  | nil => exact List.pairwise_singleton _ _
  | cons entry rest ih =>
    have hrest := List.pairwise_cons.mp hordered
    unfold Entries.place
    split
    · next hbefore =>
      refine List.pairwise_cons.mpr ⟨fun other hmem => ?_, hordered⟩
      rcases List.mem_cons.mp hmem with rfl | hmem
      · exact not_precedes_of_precedes hbefore (precedes_self _)
      · exact not_precedes_of_precedes hbefore (hrest.1 other hmem)
    · next hafter =>
      refine List.pairwise_cons.mpr ⟨fun other hmem => ?_, ih hrest.2⟩
      rcases mem_names_place.mp hmem with rfl | hmem
      · exact Bool.eq_false_iff.mpr hafter
      · exact hrest.1 other hmem

/-- A name that is there keeps its place, and a new one is placed in order. -/
theorem Ordered.assign {entries : List (Text × α)} (hordered : Ordered entries) (name : Text)
    (value : α) : Ordered (assign entries name value) := by
  unfold Entries.assign
  split
  · unfold Ordered
    rwa [map_fst_replace]
  · exact hordered.place name value

/-- A name that goes before none of the others is put behind them. -/
theorem place_eq_append {entries : List (Text × α)} {name : Text}
    (hlast : ∀ other ∈ entries.map Prod.fst, precedes name other = false) (value : α) :
    place name value entries = entries ++ [(name, value)] := by
  induction entries with
  | nil => rfl
  | cons entry rest ih =>
    rw [List.map_cons, List.forall_mem_cons] at hlast
    rw [place, if_neg (Bool.eq_false_iff.mp hlast.1), ih hlast.2]
    rfl

theorem assign_eq_append {entries : List (Text × α)} {name : Text}
    (hnew : name ∉ entries.map Prod.fst)
    (hlast : ∀ other ∈ entries.map Prod.fst, precedes name other = false) (value : α) :
    assign entries name value = entries ++ [(name, value)] := by
  have habsent : ¬ has entries name = true := by simpa [has] using hnew
  rw [assign, if_neg habsent, place_eq_append hlast]

/-- Entries in order are rebuilt one by one. -/
theorem ofPairs_eq_self {entries : List (Text × α)} (hordered : Ordered entries)
    (hdistinct : (entries.map Prod.fst).Nodup) : ofPairs entries = entries := by
  induction entries using List.reverseRecOn with
  | nil => rfl
  | append_singleton before entry ih =>
    rw [Ordered, List.map_append, List.pairwise_append] at hordered
    rw [List.map_append, List.nodup_append] at hdistinct
    have hbefore := ih hordered.1 hdistinct.1
    rw [ofPairs] at hbefore
    rw [ofPairs, List.foldl_append, hbefore]
    exact assign_eq_append (fun hmem => hdistinct.2.2 _ hmem _ (by simp) rfl)
      (fun other hmem => hordered.2.2 other hmem _ (by simp)) entry.2

end ExporterAudit.Entries
