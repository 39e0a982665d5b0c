import ExporterAudit.Proofs.BucketCounts.Sums
import ExporterAudit.Proofs.Success
import Mathlib.Algebra.Order.BigOperators.Group.List
import Mathlib.Data.List.Nodup

/-!
Adding changes of either sign to bucket counts. A bucket is listed as soon as one change falls on it,
also where its changes cancel, and its count is their exact sum as long as no change and no running
sum has to be rounded. Each change falls on one bucket, so nothing is lost or counted twice. Positive
amounts leave positive counts, rounded or not.
-/

namespace ExporterAudit.BucketCounts

open Binary64

/-- The name of the bucket that a value falls on, if it has one. -/
def key? (value : Binary64) : Option Binary64 :=
  (Bucket.ofValue value).toOption.map key

/-- Counts go by the key of a bucket, so a change does too. -/
theorem key?_of_ok {value bucket : Binary64} (hbucket : Bucket.ofValue value = .ok bucket) :
    key? value = some (key bucket) := by
  rw [key?, hbucket]
  rfl

/-- The changes, of those that are given with their buckets, that fall on one bucket. -/
def changesOn (bucket : Binary64) (changes : List (Option Binary64 × Int)) : List Int :=
  (changes.filter (·.1 = some bucket)).map Prod.snd

theorem changesOn_cons (bucket : Binary64) (change : Option Binary64 × Int)
    (rest : List (Option Binary64 × Int)) :
    changesOn bucket (change :: rest) =
      if change.1 = some bucket then change.2 :: changesOn bucket rest else changesOn bucket rest := by
  unfold changesOn
  rw [List.filter_cons]
  split <;> simp_all

theorem changesOn_sublist (bucket : Binary64) (changes : List (Option Binary64 × Int)) :
    (changesOn bucket changes).Sublist (changes.map Prod.snd) :=
  List.filter_sublist.map Prod.snd

/-- A bucket has changes as soon as one falls on it, also if it is zero in sum. -/
theorem changesOn_ne_nil_iff {bucket : Binary64} {changes : List (Option Binary64 × Int)} :
    changesOn bucket changes ≠ [] ↔ ∃ change ∈ changes, change.1 = some bucket := by
  simp [changesOn]

/-- Each change falls on one bucket. -/
theorem sum_changesOn {buckets : List Binary64} (hdistinct : buckets.Nodup)
    {changes : List (Option Binary64 × Int)}
    (hlisted : ∀ change ∈ changes, ∃ bucket ∈ buckets, change.1 = some bucket) :
    (buckets.map fun bucket => (changesOn bucket changes).sum).sum = (changes.map Prod.snd).sum := by
  induction changes with
  | nil => simp [changesOn]
  | cons change rest ih =>
    obtain ⟨hfirst, hrest⟩ := List.forall_mem_cons.mp hlisted
    obtain ⟨bucket, hmem, hbucket⟩ := hfirst
    have hsplit (other : Binary64) : (changesOn other (change :: rest)).sum =
        (if other = bucket then change.2 else 0) + (changesOn other rest).sum := by
      rw [changesOn_cons, hbucket]
      by_cases hother : other = bucket
      · simp [hother]
      · simp [hother, Ne.symm hother]
    have honce : (buckets.map fun other => if other = bucket then change.2 else 0).sum = change.2 := by
      rw [List.sum_map_eq_nsmul_single bucket _ fun other hother _ => if_neg hother,
        List.count_eq_one_of_mem hdistinct hmem, one_nsmul, if_pos rfl]
    simp only [hsplit, List.sum_map_add, honce, ih hrest, List.map_cons, List.sum_cons]

/-! ### Changes that are not rounded -/

/-- Neither the changes nor their running sums have to be rounded. -/
structure Unrounded (changes : List Int) : Prop where
  each : ∀ change ∈ changes, Representable change
  sums : ∀ first, first <+: changes → Representable first.sum

/-- What is not rounded up to the last change is not rounded before it either, nor is the sum with
it. -/
theorem Unrounded.of_append_singleton {changes : List Int} {change : Int}
    (hunrounded : Unrounded (changes ++ [change])) :
    Unrounded changes ∧ Representable change ∧ Representable (changes.sum + change) where
  left := {
    each := fun other hmem => hunrounded.each other (List.mem_append_left _ hmem)
    sums := fun first hfirst => hunrounded.sums first (hfirst.trans (List.prefix_append _ _)) }
  right := ⟨hunrounded.each change (by simp), by simpa using hunrounded.sums _ List.prefix_rfl⟩

/-- Positive changes only build up, so no sum on the way exceeds the last one. -/
theorem unrounded_of_pos {changes : List Int} (hpos : ∀ change ∈ changes, 0 < change)
    (hsmall : changes.sum < 2 ^ 53) : Unrounded changes := by
  have hnonneg : ∀ change ∈ changes, 0 ≤ change := fun change hmem => (hpos change hmem).le
  have hsublist (some : List Int) (hsome : some.Sublist changes) : Representable some.sum := by
    have hle := hsome.sum_le_sum hnonneg
    have hge := List.sum_nonneg fun change hmem => hnonneg change (hsome.subset hmem)
    exact representable_of_natAbs_lt (by omega)
  exact {
    each := fun change hmem => by
      simpa using hsublist [change] (List.singleton_sublist.mpr hmem)
    sums := fun first hfirst => hsublist first hfirst.sublist }

/-- The amount is added to the bucket of the change, and is the change unless it is rounded. -/
structure Applies (amount : Binary64 × Binary64) (change : Option Binary64 × Int) : Prop where
  bucket : key? amount.1 = change.1
  exact : Representable change.2 → amount.2.isFinite = true ∧ amount.2.IsInt change.2

/-- The buckets that some change falls on are listed, each with the sum of its changes. -/
structure Sums (counts : BucketCounts) (changes : Binary64 → List Int) : Prop where
  absent : ∀ bucket, counts.get? bucket = none ↔ changes (key bucket) = []
  exact : ∀ bucket count, counts.get? bucket = some count → Unrounded (changes (key bucket)) →
    count.isFinite = true ∧ count.IsInt (changes (key bucket)).sum

theorem sums_empty : Sums .empty fun _ => [] :=
  ⟨fun _ => ⟨fun _ => rfl, fun _ => rfl⟩, fun _ _ hcount => by cases hcount⟩

namespace Sums

variable {counts : BucketCounts} {changes : Binary64 → List Int}

/-- The count that the next change is added to is the sum of those before, or zero before the first.
-/
theorem exact_getD (hsums : counts.Sums changes) (bucket : Binary64)
    (hunrounded : Unrounded (changes (key bucket))) :
    ((counts.get? bucket).getD 0).isFinite = true ∧
      ((counts.get? bucket).getD 0).IsInt (changes (key bucket)).sum := by
  cases hget : counts.get? bucket with
  | none =>
    rw [(hsums.absent bucket).mp hget]
    exact ⟨isInt_zero.isFinite (by decide), isInt_zero⟩
  | some count => exact hsums.exact bucket count hget hunrounded

/-- Adding to a bucket appends to its changes alone. -/
theorem add (hsums : counts.Sums changes) {bucket amount : Binary64} {change : Int}
    (hamount : Representable change → amount.isFinite = true ∧ amount.IsInt change) :
    (counts.add bucket amount).Sums
      fun other => if other = key bucket then changes other ++ [change] else changes other := by
  refine ⟨fun other => ?_, fun other count hcount => ?_⟩
  · rw [BucketCounts.add, get?_insert]
    split
    · simp
    · exact hsums.absent other
  · rw [BucketCounts.add, get?_insert] at hcount
    split at hcount
    · next hsame =>
      cases hcount
      simp only [hsame, ↓reduceIte, List.sum_append, List.sum_singleton]
      intro hunrounded
      obtain ⟨hbefore, hchange, hsum⟩ := hunrounded.of_append_singleton
      obtain ⟨hfinite, hint⟩ := hsums.exact_getD bucket hbefore
      obtain ⟨hamountFinite, hamountInt⟩ := hamount hchange
      exact hint.add_of_representable hamountInt hfinite hamountFinite hsum
    · next hother =>
      simpa only [hother, ↓reduceIte] using hsums.exact other count hcount

/-- Adding amounts one after another appends the changes that they apply. -/
theorem addAll (hsums : counts.Sums changes) {amounts : List (Binary64 × Binary64)}
    {applied : List (Option Binary64 × Int)} (hamounts : List.Forall₂ Applies amounts applied)
    {result : BucketCounts} (hresult : counts.addAll amounts = .ok result) :
    (result.Sums fun bucket => changes bucket ++ changesOn bucket applied) ∧
      ∀ change ∈ applied, ∃ bucket, change.1 = some (key bucket) := by
  induction hamounts generalizing counts changes with
  | nil =>
    cases hresult
    exact ⟨by simpa [changesOn] using hsums, by simp⟩
  | @cons amount change amounts applied hfirst hrest ih =>
    obtain ⟨bucket, hbucket, hadded⟩ := bind_eq_ok_iff.mp hresult
    have hchange : change.1 = some (key bucket) :=
      hfirst.bucket.symm.trans (key?_of_ok hbucket)
    obtain ⟨hall, hlisted⟩ := ih (hsums.add hfirst.exact) hadded
    refine ⟨?_, List.forall_mem_cons.mpr ⟨⟨_, hchange⟩, hlisted⟩⟩
    convert hall using 2 with other
    rw [changesOn_cons, hchange]
    by_cases hother : other = key bucket
    · simp [hother]
    · simp [hother, Ne.symm hother]

end Sums

/-- No change is lost or counted twice: the listed buckets are those that some change falls on, and
as far as nothing is rounded, a count is the sum of the changes on its bucket and the counts add up to
the total. -/
structure Conserves (counts : BucketCounts) (changes : List (Option Binary64 × Int)) (total : Int) :
    Prop where
  distinct : (counts.entries.map Prod.fst).Nodup
  listed : ∀ bucket, bucket ∈ counts.entries.map Prod.fst ↔ changesOn bucket changes ≠ []
  exact : ∀ entry ∈ counts.entries, Unrounded (changesOn entry.1 changes) →
    entry.2.IsInt (changesOn entry.1 changes).sum
  whole : (∀ entry ∈ counts.entries, Unrounded (changesOn entry.1 changes)) →
    ∃ observed : List Int, List.Forall₂ IsInt (counts.entries.map Prod.snd) observed ∧
      observed.sum = total

/-- The buckets listed are those with a change, since every change falls on a key. -/
theorem Sums.mem_iff {counts : BucketCounts} {changes : List (Option Binary64 × Int)}
    (hsums : counts.Sums fun bucket => changesOn bucket changes)
    (hkeys : ∀ change ∈ changes, ∃ bucket, change.1 = some (key bucket)) (bucket : Binary64) :
    bucket ∈ counts.entries.map Prod.fst ↔ changesOn bucket changes ≠ [] := by
  have hnamed (named : Binary64) :
      key named ∈ counts.entries.map Prod.fst ↔ changesOn (key named) changes ≠ [] := by
    rw [ne_eq, ← hsums.absent, get?_eq_none_iff, not_not]
  constructor
  · intro hmem
    have hkey := key_eq_self_of_mem hmem
    exact hkey ▸ (hnamed bucket).mp (hkey.symm ▸ hmem)
  · intro hsome
    obtain ⟨change, hchange, hbucket⟩ := changesOn_ne_nil_iff.mp hsome
    obtain ⟨named, hchangeKey⟩ := hkeys change hchange
    obtain rfl : bucket = key named := Option.some.inj (hbucket.symm.trans hchangeKey)
    exact (hnamed named).mpr hsome

theorem Sums.isInt_of_mem {counts : BucketCounts} {changes : Binary64 → List Int}
    (hsums : counts.Sums changes) {entry : Binary64 × Binary64} (hmem : entry ∈ counts.entries)
    (hunrounded : Unrounded (changes entry.1)) : entry.2.IsInt (changes entry.1).sum := by
  obtain ⟨hkey, hcount⟩ := get?_of_mem hmem
  have hexact := hsums.exact entry.1 entry.2 hcount
  rw [hkey] at hexact
  exact (hexact hunrounded).2

/-- Every change falls on exactly one bucket, so the sums of the buckets make up the total. -/
theorem Sums.conserves {counts : BucketCounts} {changes : List (Option Binary64 × Int)}
    (hsums : counts.Sums fun bucket => changesOn bucket changes)
    (hkeys : ∀ change ∈ changes, ∃ bucket, change.1 = some (key bucket)) {total : Int}
    (htotal : (changes.map Prod.snd).sum = total) : counts.Conserves changes total := by
  refine ⟨counts.distinct, hsums.mem_iff hkeys, fun entry => hsums.isInt_of_mem, fun hunrounded => ?_⟩
  refine ⟨counts.entries.map fun entry => (changesOn entry.1 changes).sum, ?_, ?_⟩
  · rw [List.forall₂_map_left_iff, List.forall₂_map_right_iff, List.forall₂_same]
    exact fun entry hmem => hsums.isInt_of_mem hmem (hunrounded entry hmem)
  · have hlisted : ∀ change ∈ changes, ∃ bucket ∈ counts.entries.map Prod.fst,
        change.1 = some bucket := by
      intro change hmem
      obtain ⟨bucket, hbucket⟩ := hkeys change hmem
      have hsome := changesOn_ne_nil_iff.mpr ⟨change, hmem, hbucket⟩
      exact ⟨key bucket, (hsums.mem_iff hkeys _).mpr hsome, hbucket⟩
    rw [← htotal, ← sum_changesOn counts.distinct hlisted, List.map_map]
    rfl

/-- Positive changes whose sum is small are rounded on no bucket. -/
theorem unrounded_changesOn {changes : List (Option Binary64 × Int)}
    (hpos : ∀ change ∈ changes, 0 < change.2) (hsmall : (changes.map Prod.snd).sum < 2 ^ 53)
    (bucket : Binary64) :
    (∀ change ∈ changesOn bucket changes, 0 < change) ∧ Unrounded (changesOn bucket changes) := by
  have hall : ∀ change ∈ changes.map Prod.snd, 0 < change := List.forall_mem_map.mpr hpos
  have hsublist := changesOn_sublist bucket changes
  have hposOn : ∀ change ∈ changesOn bucket changes, 0 < change := fun change hchange =>
    hall change (hsublist.subset hchange)
  have hle := hsublist.sum_le_sum fun change hchange => (hall change hchange).le
  exact ⟨hposOn, unrounded_of_pos hposOn (hle.trans_lt hsmall)⟩

/-- Positive changes whose sum is small are conserved exactly, and leave positive counts. -/
theorem Conserves.exact_of_pos {counts : BucketCounts} {changes : List (Option Binary64 × Int)}
    {total : Int} (hconserves : counts.Conserves changes total)
    (hpos : ∀ change ∈ changes, 0 < change.2) (hsmall : (changes.map Prod.snd).sum < 2 ^ 53) :
    ∀ entry ∈ counts.entries, Unrounded (changesOn entry.1 changes) ∧ lt 0 entry.2 = true := by
  intro entry hmem
  obtain ⟨hposOn, hunrounded⟩ := unrounded_changesOn hpos hsmall entry.1
  have hsome := (hconserves.listed entry.1).mp (List.mem_map_of_mem hmem)
  have hsum := List.sum_pos _ hposOn hsome
  exact ⟨hunrounded, (isInt_zero.lt_iff (hconserves.exact entry hmem hunrounded)).mpr hsum⟩

/-! ### Positive amounts -/

/-- A bucket that only positive amounts are added to has a positive count. -/
theorem zero_lt_of_addAll {counts result : BucketCounts} {bucket : Binary64}
    (hcounts : ∀ count, counts.get? bucket = some count → lt 0 count = true)
    {amounts : List (Binary64 × Binary64)}
    (hamounts : ∀ amount ∈ amounts, key? amount.1 = some (key bucket) → lt 0 amount.2 = true)
    (hresult : counts.addAll amounts = .ok result) :
    ∀ count, result.get? bucket = some count → lt 0 count = true := by
  induction amounts generalizing counts with
  | nil =>
    cases hresult
    exact hcounts
  | cons amount rest ih =>
    obtain ⟨added, hadded, hrest⟩ := bind_eq_ok_iff.mp hresult
    obtain ⟨hfirst, hlater⟩ := List.forall_mem_cons.mp hamounts
    refine ih (fun count hcount => ?_) hlater hrest
    rw [add, get?_insert] at hcount
    split at hcount
    · next hsame =>
      cases hcount
      refine zero_lt_add ?_ (hfirst ((key?_of_ok hadded).trans (congrArg some hsame.symm)))
      cases hbefore : counts.get? added with
      | none => exact zero_le_iff.mpr ⟨_, isInt_zero, (Int.zero_mul _).ge⟩
      | some before =>
        rw [← get?_key, ← hsame, get?_key] at hbefore
        exact zero_le_of_lt (hcounts before hbefore)
    · exact hcounts count hcount

end ExporterAudit.BucketCounts
