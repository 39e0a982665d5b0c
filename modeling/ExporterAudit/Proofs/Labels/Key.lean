import ExporterAudit.LabelBlock
import ExporterAudit.Proofs.Entries.Lookup
import ExporterAudit.Proofs.Success
import ExporterAudit.Proofs.Text.Lines
import ExporterAudit.Proofs.Text.Order
import Mathlib.Data.List.Nodup
import Mathlib.Data.List.Perm.Subperm

/-!
The key of a label set. It depends on the labels only, not on their order, and it gives the labels
back as long as no value holds the text that stands between two labels of a key. Values are written
into a key without escapes, so that other values can pass for several labels.
-/

namespace ExporterAudit.Labels

/-- Names are distinct, so a label is found under its name. -/
theorem get?_eq_some_iff {labels : Labels} {name value : Text} :
    labels.get? name = some value ↔ (name, value) ∈ labels.entries :=
  Entries.lookup_eq_some_iff labels.distinct

/-- A label has the value that was assigned last. -/
theorem get?_assign {name : Text} (hreserved : name ≠ reservedName) (labels : Labels) (value other : Text) :
    (labels.assign name value).get? other = if other = name then some value else labels.get? other := by
  rw [assign, if_neg hreserved]
  exact Entries.lookup_assign labels.entries name value other

theorem get?_assign_of_ne {name other : Text} (hother : other ≠ name) (labels : Labels) (value : Text) :
    (labels.assign name value).get? other = labels.get? other := by
  by_cases hreserved : name = reservedName
  · rw [assign, if_pos hreserved]
  · rw [get?_assign hreserved, if_neg hother]

/-- Comparison disregards the order of the entries and nothing else. -/
theorem same_iff_perm {a b : Labels} : a.same b = true ↔ a.entries.Perm b.entries := by
  simp only [same, Bool.and_eq_true, beq_iff_eq, List.all_eq_true, get?_eq_some_iff]
  constructor
  · rintro ⟨hlength, hall⟩
    have hsubset : a.entries ⊆ b.entries := fun entry hmem => hall entry hmem
    have hsubperm := List.subperm_of_subset (List.Nodup.of_map _ a.distinct) hsubset
    exact hsubperm.perm_of_length_le (Nat.le_of_eq hlength.symm)
  · intro hperm
    exact ⟨hperm.length_eq, fun entry hmem => hperm.subset hmem⟩

/-! ### Sorting -/

theorem sorted_perm (labels : Labels) : labels.sorted.Perm labels.entries :=
  List.mergeSort_perm _ _

/-- Sorting is by name alone. -/
theorem pairwise_sorted (labels : Labels) :
    labels.sorted.Pairwise fun a b => Text.le a.1 b.1 = true := by
  have htrans (a b c : Text × Text) (hab : Text.le a.1 b.1 = true) (hbc : Text.le b.1 c.1 = true) :
      Text.le a.1 c.1 = true := Text.le_trans hab hbc
  have htotal (a b : Text × Text) : (Text.le a.1 b.1 || Text.le b.1 a.1) = true := by
    simpa using Text.le_total a.1 b.1
  exact List.pairwise_mergeSort htrans htotal labels.entries

/-- Sorting by name disregards the order of the entries and nothing else. -/
theorem sorted_eq_iff_perm {a b : Labels} : a.sorted = b.sorted ↔ a.entries.Perm b.entries := by
  constructor
  · intro hsorted
    exact a.sorted_perm.symm.trans (hsorted ▸ b.sorted_perm)
  · intro hperm
    have hsorted : a.sorted.Perm b.sorted :=
      a.sorted_perm.trans (hperm.trans b.sorted_perm.symm)
    refine hsorted.eq_of_pairwise ?_ a.pairwise_sorted b.pairwise_sorted
    -- Names are distinct, so two entries that sort alike are one.
    intro first second hfirst hsecond hle hge
    have hfirst := a.sorted_perm.subset hfirst
    have hsecond := a.sorted_perm.subset (hsorted.symm.subset hsecond)
    exact List.inj_on_of_nodup_map a.distinct hfirst hsecond (Text.le_antisymm hle hge)

/-! ### Labels told apart in a key -/

/-- An entry whose text ends where its value does: its name holds no equals sign, and its value no
double quote with a comma behind it. -/
structure Separable (entry : Text × Text) : Prop where
  name : '=' ∉ entry.1
  value : ¬ ['"', ','] <:+: entry.2

/-- The quote that ends a value is found: behind it comes a comma or nothing, and no value holds a
quote with a comma behind it. -/
theorem quote_append_ne {value rest : Text} (hvalue : ¬ ['"', ','] <:+: '"' :: value)
    (hrest : ∀ c ∈ rest.head?, c = ',') (later : Text) : rest ≠ value ++ '"' :: later := by
  rintro rfl
  cases value with
  | nil => exact absurd (hrest '"' rfl) (by decide)
  | cons c value =>
    obtain rfl := hrest c rfl
    exact hvalue ⟨[], value, rfl⟩

/-- A value ends at the first double quote that a comma or nothing follows. -/
theorem value_append_inj {v w s t : Text} (hv : ¬ ['"', ','] <:+: v) (hw : ¬ ['"', ','] <:+: w)
    (hs : ∀ c ∈ s.head?, c = ',') (ht : ∀ c ∈ t.head?, c = ',')
    (h : v ++ '"' :: s = w ++ '"' :: t) : v = w ∧ s = t := by
  -- If one value ends where the other goes on, the other holds the quote that ends the first, and a
  -- comma behind it.
  induction v generalizing w with
  | nil =>
    cases w with
    | nil => exact ⟨rfl, (List.cons.inj h).2⟩
    | cons d w =>
      obtain ⟨rfl, hrest⟩ := List.cons.inj h
      exact absurd hrest (quote_append_ne hw hs t)
  | cons c v ih =>
    cases w with
    | nil =>
      obtain ⟨rfl, hrest⟩ := List.cons.inj h
      exact absurd hrest.symm (quote_append_ne hv ht s)
    | cons d w =>
      obtain ⟨rfl, hrest⟩ := List.cons.inj h
      have hshorter {x : Text} (hx : ¬ ['"', ','] <:+: c :: x) : ¬ ['"', ','] <:+: x := fun hinside =>
        hx (hinside.trans (List.suffix_cons c x).isInfix)
      obtain ⟨rfl, hafter⟩ := ih (hshorter hv) (hshorter hw) hrest
      exact ⟨rfl, hafter⟩

/-- A label is read off the front of a key, and what follows it too. -/
theorem entryText_append_inj {e f : Text × Text} (he : Separable e) (hf : Separable f) {s t : Text}
    (hs : ∀ c ∈ s.head?, c = ',') (ht : ∀ c ∈ t.head?, c = ',')
    (h : entryText e ++ s = entryText f ++ t) : e = f ∧ s = t := by
  obtain ⟨name, value⟩ := e
  obtain ⟨name', value'⟩ := f
  have hwritten (name value rest : Text) : entryText (name, value) ++ rest =
      name ++ '=' :: '"' :: (value ++ '"' :: rest) := by
    simp [entryText]
  have hsplit := congrArg (Text.splitFirst? '=') h
  rw [hwritten, hwritten, Text.splitFirst?_append he.name, Text.splitFirst?_append hf.name] at hsplit
  obtain ⟨hname, hrest⟩ := Prod.mk.inj (Option.some.inj hsplit)
  obtain ⟨hvalue, hafter⟩ := value_append_inj he.value hf.value hs ht (List.cons.inj hrest).2
  exact ⟨Prod.ext hname hvalue, hafter⟩

/-- A key is read back label by label, so it comes from one list of labels only. -/
theorem flatMap_entryText_inj {es fs : List (Text × Text)} (hes : ∀ e ∈ es, Separable e)
    (hfs : ∀ f ∈ fs, Separable f)
    (h : es.flatMap (',' :: entryText ·) = fs.flatMap (',' :: entryText ·)) : es = fs := by
  have hcomma (gs : List (Text × Text)) : ∀ c ∈ (gs.flatMap (',' :: entryText ·)).head?, c = ',' := by
    cases gs <;> simp
  induction es generalizing fs with
  | nil => cases fs with
    | nil => rfl
    | cons f fs => cases h
  | cons e es ih =>
    cases fs with
    | nil => cases h
    | cons f fs =>
      simp only [List.flatMap_cons, List.cons_append, List.cons.injEq, true_and] at h
      rw [List.forall_mem_cons] at hes hfs
      obtain ⟨rfl, hrest⟩ := entryText_append_inj hes.1 hfs.1 (hcomma es) (hcomma fs) h
      rw [ih hes.2 hfs.2 hrest]

/-- A key gives its sorted labels back. -/
theorem join_entryText_inj {es fs : List (Text × Text)} (hes : ∀ e ∈ es, Separable e)
    (hfs : ∀ f ∈ fs, Separable f)
    (h : Text.join "," (es.map entryText) = Text.join "," (fs.map entryText)) : es = fs := by
  have hcommas (e : Text × Text) (gs : List (Text × Text)) :
      ',' :: Text.join "," ((e :: gs).map entryText) = (e :: gs).flatMap (',' :: entryText ·) := by
    rw [List.map_cons, Text.join_cons, List.flatMap_map]
    rfl
  have hempty (e : Text × Text) (gs : List (Text × Text)) :
      Text.join "," ((e :: gs).map entryText) ≠ [] := by
    rw [List.map_cons, Text.join_cons]
    simp [entryText]
  cases es with
  | nil =>
    cases fs with
    | nil => rfl
    | cons f fs => exact absurd h.symm (hempty f fs)
  | cons e es =>
    cases fs with
    | nil => exact absurd h (hempty e es)
    | cons f fs =>
      refine flatMap_entryText_inj hes hfs ?_
      rw [← hcommas, ← hcommas, h]

/-! ### Keys -/

/-- Labels in another order have the same key, since they are sorted for it. -/
theorem key_eq_of_same {a b : Labels} (hsame : a.same b = true) : a.key = b.key := by
  rw [key, key, sorted_eq_iff_perm.mpr (same_iff_perm.mp hsame)]

/-- The key of labels that are sorted already is the text of the labels. -/
theorem key_eq_toText {labels : Labels}
    (hsorted : labels.entries.Pairwise fun a b => Text.le a.1 b.1 = true) :
    labels.key = labels.toText := by
  rw [key, toText, sorted, List.mergeSort_of_pairwise hsorted]

/-- No value holds a double quote with a comma behind it. -/
def Delimited (labels : Labels) : Prop :=
  ∀ entry ∈ labels.entries, ¬ ['"', ','] <:+: entry.2

instance (labels : Labels) : Decidable labels.Delimited :=
  inferInstanceAs (Decidable (∀ entry ∈ labels.entries, _))

/-- No name holds an equals sign. -/
def Named (labels : Labels) : Prop :=
  ∀ entry ∈ labels.entries, '=' ∉ entry.1

theorem Named.without {labels : Labels} (hnamed : labels.Named) (names : List Text) :
    (labels.without names).Named :=
  fun entry hmem => hnamed entry (List.mem_filter.mp hmem).1

theorem Named.assign {labels : Labels} (hnamed : labels.Named) {name : Text} (hname : '=' ∉ name)
    (value : Text) : (labels.assign name value).Named := by
  unfold Labels.assign
  split
  · exact hnamed
  · intro entry hmem
    have hnames := Entries.mem_names_assign (List.mem_map.mpr ⟨entry, hmem, rfl⟩)
    rcases hnames with heq | hold
    · rwa [heq]
    · obtain ⟨other, hother, heq⟩ := List.mem_map.mp hold
      exact heq ▸ hnamed other hother

/-- Delimited label sets have the same key exactly if they are the same. -/
theorem key_eq_iff_same {a b : Labels} (ha : a.Named) (hb : b.Named) (hdelimitedA : a.Delimited)
    (hdelimitedB : b.Delimited) : a.key = b.key ↔ a.same b = true := by
  have hseparable {labels : Labels} (hnamed : labels.Named) (hdelimited : labels.Delimited) :
      ∀ entry ∈ labels.sorted, Separable entry := fun entry hmem =>
    have hentry := labels.sorted_perm.subset hmem
    ⟨hnamed entry hentry, hdelimited entry hentry⟩
  refine ⟨fun hkey => ?_, key_eq_of_same⟩
  rw [same_iff_perm, ← sorted_eq_iff_perm]
  exact join_entryText_inj (hseparable ha hdelimitedA) (hseparable hb hdelimitedB) hkey

end ExporterAudit.Labels

namespace ExporterAudit.LabelBlock

/-- A pair is cut at its first equals sign, so none is left in its name. -/
theorem named_addPair {block pair : Text} {labels next : Labels} (hnamed : labels.Named)
    (hadd : addPair block labels pair = .ok next) : next.Named := by
  unfold addPair at hadd
  split at hadd
  · cases hadd
  · next name value hsplit =>
    cases hadd
    have hname := Text.not_mem_of_splitFirst? hsplit
    exact hnamed.assign (fun hmem => hname (Text.trim_subset name hmem)) _

/-- A pair is cut at its first equals sign, so no name that is read holds one. -/
theorem named_of_read {block : Text} {labels : Labels} (hread : read block = .ok labels) :
    labels.Named := by
  have hfold (pieces : List Text) : ∀ start : Labels, start.Named →
      pieces.foldlM (addPair block) start = .ok labels → labels.Named := by
    induction pieces with
    | nil =>
      rintro start hstart hdone
      cases hdone
      exact hstart
    | cons pair rest ih =>
      intro start hstart hfolded
      rw [List.foldlM_cons] at hfolded
      obtain ⟨next, hadd, hrest⟩ := bind_eq_ok_iff.mp hfolded
      exact ih next (named_addPair hstart hadd) hrest
  exact hfold (pairs block) Labels.empty (by simp [Labels.Named, Labels.empty]) hread

end ExporterAudit.LabelBlock
