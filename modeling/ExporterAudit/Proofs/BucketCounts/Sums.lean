import ExporterAudit.Proofs.Bucket.Search
import ExporterAudit.Proofs.BucketCounts.Lookup
import ExporterAudit.Record

/-!
Adding amounts to bucket counts one after another. Only the buckets of the values decide whether
this succeeds. When all amounts are naturals and their sum stays below `2 ^ 53`, each bucket ends
up with the exact sum of its own amounts, in whatever order they came.
-/

namespace ExporterAudit

theorem CumulativeBucket.forall_occupancy {p : Binary64 → Prop} (last : Binary64)
    (buckets : List CumulativeBucket) :
    (∀ amount ∈ occupancy last buckets, p amount.1) ↔ ∀ bucket ∈ buckets, p (bucket.bound - 1) := by
  induction buckets generalizing last with
  | nil => simp [occupancy]
  | cons bucket rest ih => rw [occupancy, List.forall_mem_cons, List.forall_mem_cons, ih]

namespace BucketCounts

/-- Adding up fails only for a value without a bucket, never for an amount. -/
theorem exists_addAll_iff {counts : BucketCounts} {amounts : List (Binary64 × Binary64)} :
    (∃ result, counts.addAll amounts = .ok result) ↔
      ∀ amount ∈ amounts, ∃ bucket, Bucket.ofValue amount.1 = .ok bucket := by
  induction amounts generalizing counts with
  | nil => simp [addAll]
  | cons amount rest ih =>
    obtain ⟨value, amount⟩ := amount
    rw [List.forall_mem_cons, addAll]
    cases hbucket : Bucket.ofValue value with
    | error failure => simp [bind, Except.bind]
    | ok bucket => simpa [bind, Except.bind] using ih

theorem addAll_cons {value bucket : Binary64} (hbucket : Bucket.ofValue value = .ok bucket)
    (counts : BucketCounts) (amount : Binary64) (rest : List (Binary64 × Binary64)) :
    counts.addAll ((value, amount) :: rest) = (counts.add bucket amount).addAll rest := by
  rw [addAll, hbucket]
  rfl

theorem addAll_cons_of_error {value : Binary64} {failure : Failure}
    (hbucket : Bucket.ofValue value = .error failure) (counts : BucketCounts) (amount : Binary64)
    (rest : List (Binary64 × Binary64)) : counts.addAll ((value, amount) :: rest) = .error failure := by
  rw [addAll, hbucket]
  rfl

/-- Amounts are added up to the first value without a bucket, which decides how this ends. -/
theorem addAll_outcome (counts : BucketCounts) (amounts : List (Binary64 × Binary64)) :
    match amounts.find? (!Bucket.isCounted ·.1) with
    | none => ∃ result, counts.addAll amounts = .ok result
    | some amount => counts.addAll amounts = .error (Bucket.refusal amount.1) := by
  induction amounts generalizing counts with
  | nil => exact ⟨counts, rfl⟩
  | cons amount rest ih =>
    obtain ⟨value, amount⟩ := amount
    rw [List.find?_cons]
    cases hcounted : Bucket.isCounted value with
    | false =>
      exact addAll_cons_of_error (Bucket.ofValue_of_not_isCounted hcounted) counts amount rest
    | true =>
      obtain ⟨bucket, hbucket⟩ := Bucket.exists_ofValue_iff.mpr hcounted
      simp only [Bool.not_true, addAll_cons hbucket]
      exact ih _

theorem lookup_put (bucket count other : Binary64) (entries : List (Binary64 × Binary64)) :
    (put bucket count entries).lookup other =
      if other = bucket then some count else entries.lookup other := by
  induction entries with
  | nil => grind [put]
  | cons entry rest ih => grind [put]

/-- Inserting changes one count, that of both zeros if the bucket is one of them. -/
theorem get?_insert (counts : BucketCounts) (bucket count other : Binary64) :
    (counts.insert bucket count).get? other =
      if key other = key bucket then some count else counts.get? other :=
  lookup_put (key bucket) count (key other) counts.entries

/-- The counts are exact naturals, and only buckets that hold something are listed. -/
structure Tallies (counts : BucketCounts) (tally : Binary64 → Nat) : Prop where
  absent : ∀ bucket, counts.get? bucket = none ↔ tally (key bucket) = 0
  exact : ∀ bucket count, counts.get? bucket = some count → count.IsInt (tally (key bucket))

namespace Tallies

variable {counts : BucketCounts} {tally : Binary64 → Nat}

/-- A bucket that is not listed tallies zero, so the count that is added to is always the tally. -/
theorem isInt_getD (htallies : counts.Tallies tally) (bucket : Binary64) :
    ((counts.get? bucket).getD 0).IsInt (tally (key bucket)) := by
  cases hget : counts.get? bucket with
  | none =>
    rw [(htallies.absent bucket).mp hget]
    exact Binary64.isInt_zero
  | some count => exact htallies.exact bucket count hget

/-- Adding to a bucket adds to its tally alone. -/
theorem add (htallies : counts.Tallies tally) {bucket amount : Binary64} {n : Nat}
    (hamount : amount.IsInt n) (hpos : 0 < n) (hfits : tally (key bucket) + n < 2 ^ 53) :
    (counts.add bucket amount).Tallies
      fun other => if other = key bucket then tally other + n else tally other := by
  have hsum : ((counts.get? bucket).getD 0 + amount).IsInt ↑(tally (key bucket) + n) := by
    rw [Int.natCast_add]
    exact (htallies.isInt_getD bucket).add hamount (by omega) (by omega) (by omega)
  refine ⟨fun other => ?_, fun other count hcount => ?_⟩
  · rw [BucketCounts.add, get?_insert]
    split
    · simp only [reduceCtorEq, false_iff]
      omega
    · exact htallies.absent other
  · rw [BucketCounts.add, get?_insert] at hcount
    split at hcount
    · next hsame =>
      cases hcount
      simpa only [hsame, ↓reduceIte] using hsum
    · next hother =>
      simpa only [hother, ↓reduceIte] using htallies.exact other count hcount

/-- Counts with the same tallies agree. -/
theorem agree {others : BucketCounts} (htallies : counts.Tallies tally)
    (hothers : others.Tallies tally) : Agree counts others := by
  intro bucket
  cases hcount : counts.get? bucket with
  | none =>
    rw [(hothers.absent bucket).mpr ((htallies.absent bucket).mp hcount)]
    exact .none
  | some count =>
    cases hother : others.get? bucket with
    | none =>
      have hnone := (htallies.absent bucket).mpr ((hothers.absent bucket).mp hother)
      rw [hcount] at hnone
      cases hnone
    | some other =>
      exact .some (((htallies.exact bucket count hcount).equals_iff
        (hothers.exact bucket other hother)).mpr rfl)

end Tallies

theorem tallies_empty : Tallies .empty fun _ => 0 :=
  ⟨fun _ => ⟨fun _ => rfl, fun _ => rfl⟩, fun _ _ hcount => by cases hcount⟩

/-- The bucket that counts a whole number. -/
def bucketOf? (number : Nat) : Option Binary64 :=
  (Bucket.ofValue (.ofNat number)).toOption.map key

/-- The natural numbers of the format have buckets, zero apart. -/
theorem exists_ofValue_ofNat {number : Nat} (hpos : 0 < number) (hlt : number < 2 ^ 53) :
    ∃ bucket, Bucket.ofValue (.ofNat number) = .ok bucket := by
  have hunits := Binary64.hasUnits_ofNat hlt
  exact ⟨_, Bucket.ofValue_of_lt hunits (Nat.mul_pos hpos Binary64.one_pos)
    (Bucket.lt_searchEnd_of_le hunits (Nat.mul_le_mul_right _ hlt.le))⟩

/-- How many of the numbers a bucket counts. -/
def tallyOf (numbers : List Nat) (bucket : Binary64) : Nat :=
  numbers.countP (bucketOf? · = some bucket)

/-- One observation for each number leaves the tally of the numbers. -/
theorem exists_addAll_ofNat {counts : BucketCounts} {tally : Binary64 → Nat}
    (htallies : counts.Tallies tally) {numbers : List Nat}
    (hnumbers : ∀ number ∈ numbers, 0 < number ∧ number < 2 ^ 53)
    (hfits : ∀ bucket, tally bucket + numbers.length < 2 ^ 53) :
    ∃ result, counts.addAll (numbers.map fun number => (.ofNat number, 1)) = .ok result ∧
      result.Tallies fun bucket => tally bucket + tallyOf numbers bucket := by
  induction numbers generalizing counts tally with
  | nil => exact ⟨counts, rfl, htallies⟩
  | cons number rest ih =>
    obtain ⟨hnumber, hrest⟩ := List.forall_mem_cons.mp hnumbers
    obtain ⟨bucket, hbucket⟩ := exists_ofValue_ofNat hnumber.1 hnumber.2
    have hroom (other : Binary64) : tally other + 1 + rest.length < 2 ^ 53 := by
      have hall := hfits other
      rw [List.length_cons] at hall
      omega
    have hadded := htallies.add (n := 1) Binary64.isInt_one Nat.one_pos
      (show tally (key bucket) + 1 < 2 ^ 53 from Nat.lt_of_le_of_lt (Nat.le_add_right _ _) (hroom _))
    have hkey : bucketOf? number = some (key bucket) := by
      rw [bucketOf?, hbucket]
      rfl
    obtain ⟨result, hresult, hsum⟩ := ih hadded hrest fun other => by
      have hother := hroom other
      split <;> omega
    refine ⟨result, by rw [List.map_cons, addAll_cons hbucket, hresult], ?_⟩
    convert hsum using 2 with other
    simp only [tallyOf, List.countP_cons, hkey, Option.some.injEq, decide_eq_true_eq,
      eq_comm (a := key bucket)]
    split <;> omega

end BucketCounts

end ExporterAudit
