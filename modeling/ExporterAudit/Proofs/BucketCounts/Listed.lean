import ExporterAudit.Proofs.Bucket.Smallest
import ExporterAudit.Proofs.BucketCounts.Changes
import ExporterAudit.QueryServer

/-!
Which buckets are listed. A histogram lists the buckets that some value falls on and no others, and
they are numbers as far as no value lies below `2 ^ -1072`. A bound less one never does.
-/

namespace ExporterAudit

namespace BucketCounts

open Binary64

/-- The listed buckets are those that were listed before, and those that a value falls on. -/
theorem mem_addAll_iff {counts result : BucketCounts} {amounts : List (Binary64 × Binary64)}
    (hresult : counts.addAll amounts = .ok result) (bucket : Binary64) :
    bucket ∈ result.entries.map Prod.fst ↔
      bucket ∈ counts.entries.map Prod.fst ∨ ∃ amount ∈ amounts, key? amount.1 = some bucket := by
  induction amounts generalizing counts with
  | nil =>
    cases hresult
    simp
  | cons amount rest ih =>
    obtain ⟨added, hadded, hrest⟩ := bind_eq_ok_iff.mp hresult
    have hlisted : bucket ∈ (counts.add added amount.2).entries.map Prod.fst ↔
        bucket = key added ∨ bucket ∈ counts.entries.map Prod.fst := mem_map_fst_put
    rw [ih hrest, hlisted, List.exists_mem_cons_iff, key?_of_ok hadded, Option.some.injEq,
      eq_comm (a := key added)]
    tauto

/-- The bucket of a value of at least four units goes by its own name. -/
theorem exists_key?_hasUnits {value : Binary64} {units : Nat} (hvalue : value.HasUnits units)
    (hfour : 4 ≤ units) (hlt : lt value Bucket.searchEnd = true) :
    ∃ bucket, Bucket.ofValue value = .ok bucket ∧ key? value = some bucket ∧
      bucket.HasUnits (Bucket.cut units) := by
  obtain ⟨bucket, hbucket, hunits⟩ := Bucket.exists_ofValue_hasUnits hvalue hfour hlt
  have hname : key bucket = bucket := by
    obtain ⟨inRange, bits, rfl⟩ := hunits
    exact key_eq_self fun hzero => by injection hzero with hsign; cases hsign
  exact ⟨bucket, hbucket, hname ▸ key?_of_ok hbucket, hunits⟩

/-- Only values below `2 ^ -1072` fall on a bucket that is no number. -/
theorem key?_eq_nan_iff {value : Binary64} {units : Nat} (hvalue : value.HasUnits units)
    (hpos : 0 < units) : key? value = some .nan ↔ units < 4 := by
  constructor
  · intro hnan
    by_contra hfour
    -- A value that is listed at all has a bucket, so it lies before the end of the search.
    obtain ⟨found, hfound, -⟩ := Option.map_eq_some_iff.mp hnan
    have hcounted := Bucket.exists_ofValue_iff.mp ⟨found, toOption_eq_some_iff.mp hfound⟩
    obtain ⟨-, -, hlt⟩ := Bucket.isCounted_eq_true_iff.mp hcounted
    obtain ⟨bucket, -, hkey, inRange, bits, rfl⟩ :=
      exists_key?_hasUnits hvalue (Nat.le_of_not_lt hfour) hlt
    rw [hkey] at hnan
    cases hnan
  · intro hlt
    exact key?_of_ok (Bucket.ofValue_eq_nan hvalue hpos hlt)

/-- Not-a-number is listed exactly if a value lies below `2 ^ -1072`. -/
theorem nan_mem_addAll_iff {amounts : List (Binary64 × Binary64)} {counts : BucketCounts}
    (hcounts : empty.addAll amounts = .ok counts) :
    .nan ∈ counts.entries.map Prod.fst ↔
      ∃ amount ∈ amounts, amount.1.toRat < 2 ^ (-1072 : ℤ) := by
  have hnumbers := exists_addAll_iff.mp ⟨counts, hcounts⟩
  rw [mem_addAll_iff hcounts, or_iff_right (show Binary64.nan ∉ empty.entries.map Prod.fst from
    List.not_mem_nil)]
  refine exists_congr fun amount => and_congr_right fun hmem => ?_
  obtain ⟨hfinite, hpos, -⟩ :=
    Bucket.isCounted_eq_true_iff.mp (Bucket.exists_ofValue_iff.mp (hnumbers amount hmem))
  obtain ⟨units, hunits, hunitsPos⟩ := exists_hasUnits_of_pos hfinite hpos
  rw [key?_eq_nan_iff hunits hunitsPos, ← not_le, ← not_le, not_iff_not]
  exact (hunits.two_pow_le_iff 2).symm

/-- Values that are one less than some number list numbers only. -/
theorem nan_not_mem_addAll {amounts : List (Binary64 × Binary64)} {counts : BucketCounts}
    (hcounts : empty.addAll amounts = .ok counts)
    (hbounds : ∀ amount ∈ amounts, ∃ bound : Binary64, amount.1 = bound - 1) :
    .nan ∉ counts.entries.map Prod.fst := by
  rw [nan_mem_addAll_iff hcounts]
  rintro ⟨amount, hmem, hsmall⟩
  have hcounted := Bucket.exists_ofValue_iff.mp (exists_addAll_iff.mp ⟨counts, hcounts⟩ amount hmem)
  obtain ⟨hfinite, hpos, -⟩ := Bucket.isCounted_eq_true_iff.mp hcounted
  obtain ⟨bound, hbound⟩ := hbounds amount hmem
  rw [hbound] at hfinite hpos hsmall
  obtain ⟨units, hunits, hlarge⟩ := exists_hasUnits_sub_one hfinite hpos
  have hfour : 2 ^ 2 ≤ units := (Nat.pow_le_pow_right (by decide) (by decide)).trans hlarge
  exact absurd ((hunits.two_pow_le_iff 2).mpr hfour) (not_le.mpr hsmall)

end BucketCounts

namespace Bucket

open Binary64

/-- From `2 ^ -1072` on the bucket of a value is a positive number that is not above the value; the
three positive numbers below it have not-a-number for a bucket, from whatever power of two of the
format the octave is looked for, and so from the start that the search finds for all values before its
end. So raw values list not-a-number exactly if one of these is among them, and bounds, of
which one is taken off first, never do. -/
theorem usable_from_four_units {value : Binary64} (hfinite : value.isFinite = true)
    (hpos : lt 0 value = true) :
    (∃ bucket, (lt value searchEnd = true → ofValue value = .ok bucket) ∧
      (∀ guess : ℤ, -1074 ≤ guess → guess ≤ 1023 → ofGuess guess value = bucket) ∧
      (2 ^ (-1072 : ℤ) ≤ value.toRat →
        bucket.isFinite = true ∧ 0 < bucket.toRat ∧ bucket.toRat ≤ value.toRat) ∧
      (value.toRat < 2 ^ (-1072 : ℤ) → bucket = .nan)) ∧
    (∀ values counts, BucketCounts.ofValues values = .ok counts →
      (.nan ∈ counts.entries.map Prod.fst ↔ ∃ small ∈ values, small.toRat < 2 ^ (-1072 : ℤ))) ∧
    (∀ name cumulative record, Record.ofCumulative name cumulative = .ok record →
      ∃ counts, record.value = .histogram counts ∧ .nan ∉ counts.entries.map Prod.fst) ∧
    ∀ rows counts, NativeBucket.toCounts rows = .ok counts → .nan ∉ counts.entries.map Prod.fst := by
  refine ⟨?_, ?_, ?_, ?_⟩
  · obtain ⟨units, hunits, hunitsPos⟩ := exists_hasUnits_of_pos hfinite hpos
    refine ⟨_, ofValue_of_lt hunits hunitsPos, fun guess _ _ => ofGuess_eq hunits hunitsPos guess, ?_, ?_⟩
    · intro hlarge
      have hfour := (hunits.two_pow_le_iff 2).mp hlarge
      have hedge := hasUnits_lowerEdge hunits hfour
      have hedgePos : 0 < cut units := Nat.zero_lt_of_lt (four_le_cut hfour)
      exact ⟨hedge.isFinite, hedge.toRat_pos_iff.mpr hedgePos,
        (hedge.toRat_le_iff hunits).mpr (cut_le units)⟩
    · intro hsmall
      have hlt : units < 2 ^ 2 := by
        by_contra hfour
        exact not_le.mpr hsmall ((hunits.two_pow_le_iff 2).mpr (Nat.le_of_not_lt hfour))
      exact lowerEdge_eq_nan hunits hunitsPos hlt
  · intro values counts hcounts
    rw [BucketCounts.nan_mem_addAll_iff hcounts]
    simp
  · intro name cumulative record hrecord
    obtain ⟨counts, hcounts, hdone⟩ := bind_eq_ok_iff.mp hrecord
    cases hdone
    refine ⟨counts, rfl, BucketCounts.nan_not_mem_addAll hcounts ?_⟩
    exact (CumulativeBucket.forall_occupancy (p := (∃ bound, · = bound - 1)) 0 cumulative).mpr
      fun bucket _ => ⟨bucket.bound, rfl⟩
  · intro rows counts hcounts
    refine BucketCounts.nan_not_mem_addAll hcounts (List.forall_mem_map.mpr ?_)
    exact fun row _ => ⟨row.upper, rfl⟩

theorem usable_from_four_units_elevenUnits :
    (ofRatio false 11 1).isFinite = true ∧ lt 0 (ofRatio false 11 1) = true ∧
      ∃ bucket, ofValue (ofRatio false 11 1) = .ok bucket ∧
        ofGuess 1023 (ofRatio false 11 1) = bucket ∧ bucket.isFinite = true ∧ 0 < bucket.toRat ∧
        bucket.toRat ≤ 11 / 2 ^ (1074 : ℤ) := by
  have hunits := hasUnits_ofRatio_small (show 11 < 2 ^ 53 by decide)
  have hpos := hunits.zero_lt_iff.mpr (show 0 < 11 by decide)
  obtain ⟨⟨bucket, hbucket, hguess, husable, -⟩, -⟩ := usable_from_four_units hunits.isFinite hpos
  have hlarge := (hunits.two_pow_le_iff 2).mpr (by decide)
  have hplace := hunits.toRat
  rw [Nat.cast_ofNat] at hplace
  exact ⟨hunits.isFinite, hpos, bucket, hbucket (by decide +kernel), hguess 1023 (by decide) le_rfl, hplace ▸ husable hlarge⟩

/-- The smallest positive number has no usable bucket, and a histogram of it lists not-a-number. -/
theorem not_usable_of_smallest :
    (ofRatio false 1 1).isFinite = true ∧ lt 0 (ofRatio false 1 1) = true ∧
      ofValue (ofRatio false 1 1) = .ok .nan ∧
      ∃ counts, BucketCounts.ofValues [ofRatio false 1 1] = .ok counts ∧
        counts.entries.map Prod.fst = [.nan] := by
  have hunits := hasUnits_ofRatio_small (show 1 < 2 ^ 53 by decide)
  have hnan := ofValue_eq_nan hunits Nat.one_pos (by decide)
  refine ⟨hunits.isFinite, hunits.zero_lt_iff.mpr Nat.one_pos, hnan,
    BucketCounts.empty.add .nan 1, ?_, rfl⟩
  rw [BucketCounts.ofValues, List.map_singleton, BucketCounts.addAll_cons hnan]
  rfl

end Bucket

end ExporterAudit
