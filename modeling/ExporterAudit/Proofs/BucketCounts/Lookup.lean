import ExporterAudit.BucketCounts
import ExporterAudit.Proofs.Binary64.Exact
import ExporterAudit.Proofs.Entries.Lookup
import Mathlib.Data.List.Perm.Subperm

/-!
Bucket counts seen as a partial function from buckets to counts. Comparison agrees with pointwise
numeric equality of these functions, whatever the order in which the buckets were met.
-/

namespace ExporterAudit.BucketCounts

theorem key_eq_self {bucket : Binary64} (h : bucket ≠ .zero true) : key bucket = bucket :=
  if_neg h

theorem key_key (bucket : Binary64) : key (key bucket) = key bucket :=
  key_eq_self (key_ne_negativeZero bucket)

/-- Looking up goes by the positive zero, whichever zero is asked for. -/
theorem get?_key (counts : BucketCounts) (bucket : Binary64) :
    counts.get? (key bucket) = counts.get? bucket := by
  unfold get?
  rw [key_key]

/-- The entries are the graph of the look-up. -/
theorem get?_eq_some_iff {counts : BucketCounts} {bucket count : Binary64} :
    counts.get? bucket = some count ↔ (key bucket, count) ∈ counts.entries :=
  Entries.lookup_eq_some_iff counts.distinct

/-- A bucket without a count is not listed. There are no hidden counts of zero. -/
theorem get?_eq_none_iff {counts : BucketCounts} {bucket : Binary64} :
    counts.get? bucket = none ↔ key bucket ∉ counts.entries.map Prod.fst := by
  rw [Option.eq_none_iff_forall_ne_some, List.mem_map]
  constructor
  · rintro hnone ⟨⟨name, count⟩, hmem, rfl⟩
    exact hnone count (get?_eq_some_iff.mpr (by simpa only [key_key] using hmem))
  · intro habsent count hsome
    exact habsent ⟨_, get?_eq_some_iff.mp hsome, rfl⟩

theorem key_eq_self_of_mem {counts : BucketCounts} {bucket : Binary64}
    (hmem : bucket ∈ counts.entries.map Prod.fst) : key bucket = bucket :=
  key_eq_self fun h => counts.positiveZero (h ▸ hmem)

/-- Listed buckets are their own keys, so an entry is found under its bucket. -/
theorem get?_of_mem {counts : BucketCounts} {entry : Binary64 × Binary64}
    (hmem : entry ∈ counts.entries) :
    key entry.1 = entry.1 ∧ counts.get? entry.1 = some entry.2 := by
  have hkey := key_eq_self_of_mem (List.mem_map_of_mem hmem)
  exact ⟨hkey, get?_eq_some_iff.mpr (hkey.symm ▸ hmem)⟩

/-- The same buckets, each with numerically equal counts. -/
def Agree (a b : BucketCounts) : Prop :=
  ∀ bucket, Option.Rel (fun x y => Binary64.equals x y = true) (a.get? bucket) (b.get? bucket)

theorem Agree.symm {a b : BucketCounts} (h : Agree a b) : Agree b a := by
  intro bucket
  have hbucket := h bucket
  revert hbucket
  generalize a.get? bucket = x, b.get? bucket = y
  rintro (⟨hequal⟩ | _)
  · exact .some (Binary64.equals_comm _ _ ▸ hequal)
  · exact .none

theorem Agree.trans {a b c : BucketCounts} (hab : Agree a b) (hbc : Agree b c) : Agree a c := by
  intro bucket
  have hleft := hab bucket
  have hright := hbc bucket
  revert hleft hright
  generalize a.get? bucket = x, b.get? bucket = y, c.get? bucket = z
  rintro (⟨hxy⟩ | _) hright
  · cases hright with
    | some hyz => exact .some (Binary64.equals_trans hxy hyz)
  · cases hright
    exact .none

/-- Buckets of `a` that are all in `b`, as many as `b` has, are all the buckets of `b`. -/
theorem subset_of_length_eq {a b : BucketCounts} (hlength : a.entries.length = b.entries.length)
    (hsubset : a.entries.map Prod.fst ⊆ b.entries.map Prod.fst) :
    b.entries.map Prod.fst ⊆ a.entries.map Prod.fst := by
  have hsubperm := List.subperm_of_subset a.distinct hsubset
  have hperm := hsubperm.perm_of_length_le (by simp [hlength])
  exact hperm.symm.subset

theorem length_eq_of_subset {a b : BucketCounts}
    (hab : a.entries.map Prod.fst ⊆ b.entries.map Prod.fst)
    (hba : b.entries.map Prod.fst ⊆ a.entries.map Prod.fst) :
    a.entries.length = b.entries.length := by
  have hle := (List.subperm_of_subset a.distinct hab).length_le
  have hge := (List.subperm_of_subset b.distinct hba).length_le
  simp only [List.length_map] at hle hge
  omega

theorem Agree.subset {a b : BucketCounts} (h : Agree a b) :
    a.entries.map Prod.fst ⊆ b.entries.map Prod.fst := by
  intro bucket hmem
  by_contra habsent
  have hkey := key_eq_self_of_mem hmem
  have hnone : b.get? bucket = none := get?_eq_none_iff.mpr (hkey.symm ▸ habsent)
  have hbucket := h bucket
  rw [hnone] at hbucket
  cases ha : a.get? bucket with
  | none => exact get?_eq_none_iff.mp ha (hkey.symm ▸ hmem)
  | some count => rw [ha] at hbucket; cases hbucket

/-- Looking up the buckets of one side only is enough, because the sizes are compared too. -/
theorem same_iff_agree {a b : BucketCounts} : a.same b = true ↔ Agree a b := by
  simp only [same, Bool.and_eq_true, beq_iff_eq, List.all_eq_true]
  constructor
  · rintro ⟨hlength, hall⟩
    have hsubset : a.entries.map Prod.fst ⊆ b.entries.map Prod.fst := by
      intro bucket hmem
      obtain ⟨⟨name, count⟩, hentry, rfl⟩ := List.mem_map.mp hmem
      by_contra habsent
      have hkey := key_eq_self_of_mem hmem
      have hmatch := hall _ hentry
      simp [get?_eq_none_iff.mpr (hkey.symm ▸ habsent)] at hmatch
    intro bucket
    cases ha : a.get? bucket with
    | none =>
      have habsent := get?_eq_none_iff.mp ha
      have hother : key bucket ∉ b.entries.map Prod.fst := fun hmem =>
        habsent (subset_of_length_eq hlength hsubset hmem)
      rw [get?_eq_none_iff.mpr hother]
      exact .none
    | some count =>
      have hmatch := hall _ (get?_eq_some_iff.mp ha)
      simp only [get?_key] at hmatch
      cases hb : b.get? bucket with
      | none => simp [hb] at hmatch
      | some other =>
        rw [hb] at hmatch
        exact .some (Binary64.equals_comm _ _ ▸ hmatch)
  · intro h
    refine ⟨length_eq_of_subset h.subset h.symm.subset, ?_⟩
    rintro ⟨bucket, count⟩ hentry
    obtain ⟨-, hsome⟩ := get?_of_mem hentry
    dsimp only at hsome
    have hbucket := h bucket
    rw [hsome] at hbucket
    cases hb : b.get? bucket with
    | none => rw [hb] at hbucket; cases hbucket
    | some other =>
      rw [hb] at hbucket
      cases hbucket with
      | some hequal => exact (Binary64.equals_comm other count).trans hequal

end ExporterAudit.BucketCounts
