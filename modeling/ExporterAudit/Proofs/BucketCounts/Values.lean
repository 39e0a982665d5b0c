import ExporterAudit.Proofs.Bucket.Octave
import ExporterAudit.Proofs.BucketCounts.Listed
import Mathlib.Algebra.BigOperators.Ring.Finset

/-!
The histogram of raw values. Each value adds one to the count of its bucket, so a count is the number
of the values on the bucket, in whatever order they come. Counts are doubles, where one more than
`2 ^ 53` is rounded back, and a count goes no further.
-/

namespace ExporterAudit

namespace BucketCounts

open Binary64

/-! ### Counting by ones -/

/-- The count that a number of observations leaves; a bucket without any is not listed. -/
def countOf? (number : Nat) : Option Binary64 :=
  if number = 0 then none else some (ofNat (min number (2 ^ 53)))

/-- The count of a bucket is the number of observations until it gets stuck at `2 ^ 53`. -/
theorem getD_countOf? (number : Nat) :
    (countOf? number).getD 0 = ofNat (min number (2 ^ 53)) := by
  unfold countOf?
  split
  · next hzero => rw [hzero, Nat.zero_min, Option.getD_none, literal_eq_ofNat]
  · rw [Option.getD_some]

/-- One more observation adds one, until the sum is rounded back. -/
theorem getD_countOf?_add_one (number : Nat) :
    some ((countOf? number).getD 0 + 1) = countOf? (number + 1) := by
  rw [getD_countOf?, countOf?, if_neg (Nat.succ_ne_zero number), literal_eq_ofNat 1,
    ofNat_add_ofNat (Nat.min_le_right _ _) (show 1 ≤ 2 ^ 53 by decide)]
  rcases Nat.lt_or_ge number (2 ^ 53) with hlt | hge
  · rw [Nat.min_eq_left hlt.le, Nat.min_eq_left (Nat.succ_le_of_lt hlt)]
  · rw [Nat.min_eq_right hge, Nat.min_eq_right (hge.trans (Nat.le_succ number)), ofNat_two_pow_add_one]

/-- Each bucket has the count of its observations. -/
def Observes (counts : BucketCounts) (tally : Binary64 → Nat) : Prop :=
  ∀ bucket, counts.get? bucket = countOf? (tally (key bucket))

theorem observes_empty : Observes .empty fun _ => 0 :=
  fun _ => rfl

namespace Observes

variable {counts : BucketCounts} {tally : Binary64 → Nat}

/-- An observation counts for its bucket alone. -/
theorem add (hobserves : counts.Observes tally) (bucket : Binary64) :
    (counts.add bucket 1).Observes
      fun other => if other = key bucket then tally other + 1 else tally other := by
  intro other
  rw [BucketCounts.add, get?_insert]
  split
  · next hsame =>
    simp only [hsame, ↓reduceIte]
    rw [hobserves bucket, getD_countOf?_add_one]
  · next hother =>
    simp only [hother, ↓reduceIte]
    exact hobserves other

theorem addAll (hobserves : counts.Observes tally) {values : List Binary64} {result : BucketCounts}
    (hresult : counts.addAll (values.map fun value => (value, 1)) = .ok result) :
    result.Observes fun bucket => tally bucket + values.countP (key? · = some bucket) := by
  induction values generalizing counts tally with
  | nil =>
    cases hresult
    exact hobserves
  | cons value rest ih =>
    obtain ⟨bucket, hbucket, hrest⟩ := bind_eq_ok_iff.mp hresult
    convert ih (hobserves.add bucket) hrest using 2 with other
    rw [List.countP_cons, key?_of_ok hbucket]
    by_cases hother : other = key bucket
    · simp [hother, Nat.add_assoc, Nat.add_comm 1]
    · simp [hother, Ne.symm hother]

/-- Counts of the same observations are the same, in whatever order the buckets were met. -/
theorem same {others : BucketCounts} (hobserves : counts.Observes tally)
    (hothers : others.Observes tally) : counts.same others = true := by
  rw [same_iff_agree]
  intro bucket
  rw [hobserves bucket, hothers bucket]
  unfold countOf?
  split
  · exact .none
  · exact .some (equals_self_of_isFinite (hasUnits_ofNat_of_le (Nat.min_le_right _ _)).isFinite)

/-- A listed bucket has at least one observation, and its count is stuck at most. -/
theorem of_mem (hobserves : counts.Observes tally) {entry : Binary64 × Binary64}
    (hmem : entry ∈ counts.entries) :
    0 < tally entry.1 ∧ entry.2 = ofNat (min (tally entry.1) (2 ^ 53)) := by
  obtain ⟨hkey, hcount⟩ := get?_of_mem hmem
  rw [hobserves entry.1, hkey] at hcount
  obtain ⟨hpos, hcount⟩ := Option.ite_none_left_eq_some.mp hcount
  exact ⟨Nat.pos_of_ne_zero hpos, (Option.some.inj hcount).symm⟩

end Observes

theorem observes_ofValues {values : List Binary64} {counts : BucketCounts}
    (hcounts : ofValues values = .ok counts) :
    counts.Observes fun bucket => values.countP (key? · = some bucket) := by
  simpa using observes_empty.addAll hcounts

/-! ### Totals -/

/-- Each value falls on one listed bucket. -/
theorem sum_countP_eq_length {values : List Binary64} {counts : BucketCounts}
    (hcounts : ofValues values = .ok counts) :
    (counts.entries.map fun entry => values.countP (key? · = some entry.1)).sum = values.length := by
  have hlisted : ∀ change ∈ values.map (fun value => (key? value, (1 : Int))),
      ∃ bucket ∈ counts.entries.map Prod.fst, change.1 = some bucket := by
    intro change hmem
    obtain ⟨value, hvalue, rfl⟩ := List.mem_map.mp hmem
    have hamount := List.mem_map_of_mem (f := fun value => (value, (1 : Binary64))) hvalue
    obtain ⟨bucket, hbucket⟩ := exists_addAll_iff.mp ⟨counts, hcounts⟩ _ hamount
    have hkey := key?_of_ok hbucket
    exact ⟨key bucket, (mem_addAll_iff hcounts _).mpr (.inr ⟨_, hamount, hkey⟩), hkey⟩
  have hones (bucket : Binary64) :
      (changesOn bucket (values.map fun value => (key? value, (1 : Int)))).sum =
        values.countP (key? · = some bucket) := by
    simp [changesOn, List.filter_map, Function.comp_def, List.countP_eq_length_filter]
  have hsum := sum_changesOn counts.distinct hlisted
  simp only [hones, List.map_map, Function.comp_def, List.map_const', List.sum_replicate,
    nsmul_eq_mul, mul_one] at hsum
  have hcast := Nat.cast_list_sum (R := Int)
    (counts.entries.map fun entry => values.countP (key? · = some entry.1))
  rw [List.map_map] at hcast
  exact Int.natCast_inj.mp (hcast.trans hsum)

/-- Naturals add up without rounding as far as the sum is a number of the format. -/
theorem foldl_add_ofNat (numbers : List Nat) {start : Nat} (hfits : start + numbers.sum ≤ 2 ^ 53) :
    (numbers.map ofNat).foldl (· + ·) (ofNat start) = ofNat (start + numbers.sum) := by
  induction numbers generalizing start with
  | nil => rw [List.sum_nil, Nat.add_zero, List.map_nil, List.foldl_nil]
  | cons number rest ih =>
    rw [List.sum_cons, ← Nat.add_assoc] at hfits ⊢
    have hstart : start ≤ 2 ^ 53 := by omega
    have hnumber : number ≤ 2 ^ 53 := by omega
    rw [List.map_cons, List.foldl_cons, ofNat_add_ofNat hstart hnumber]
    exact ih hfits

/-! ### The histogram of a list -/

/-- How many of the values fall on a bucket. -/
def occurrences (values : List Binary64) (bucket : Binary64) : Nat :=
  values.countP fun value => (Bucket.ofValue value).toOption = some bucket

/-- The counts are those of the values: listed are the buckets that some value falls on, each is its
own bucket and counts the values that fall on it, and all counts add up to the number of values. A
count is a double and stays at `2 ^ 53` once it is there; a list of values has fewer than `2 ^ 32` of
them. -/
structure CountsOf (counts : BucketCounts) (values : List Binary64) : Prop where
  distinct : (counts.entries.map Prod.fst).Nodup
  listed : ∀ bucket, bucket ∈ counts.entries.map Prod.fst ↔ 0 < occurrences values bucket
  fixed : ∀ entry ∈ counts.entries, Bucket.ofValue entry.1 = .ok entry.1
  exact : ∀ entry ∈ counts.entries, entry.2 = ofNat (min (occurrences values entry.1) (2 ^ 53))
  positive : ∀ entry ∈ counts.entries, lt 0 entry.2 = true
  total : values.length ≤ 2 ^ 53 →
    (counts.entries.map Prod.snd).foldl (· + ·) 0 = ofNat values.length

/-- Values that are finite and not below `2 ^ -1072`, and lie before the end of the search. -/
def InRange (values : List Binary64) : Prop :=
  ∀ value ∈ values, value.isFinite = true ∧ 2 ^ (-1072 : ℤ) ≤ value.toRat ∧
    lt value Bucket.searchEnd = true

theorem InRange.exists_hasUnits {values : List Binary64} (hrange : InRange values) {value : Binary64}
    (hmem : value ∈ values) :
    ∃ units, value.HasUnits units ∧ 4 ≤ units ∧ lt value Bucket.searchEnd = true := by
  obtain ⟨hfinite, hlow, hlt⟩ := hrange value hmem
  obtain ⟨units, hunits, hfour⟩ := Binary64.exists_hasUnits hfinite 2 hlow
  exact ⟨units, hunits, hfour, hlt⟩

theorem InRange.exists_ofValues {values : List Binary64} (hrange : InRange values) :
    ∃ counts, ofValues values = .ok counts := by
  refine exists_addAll_iff.mpr (List.forall_mem_map.mpr fun value hmem => ?_)
  obtain ⟨units, hunits, hfour, hlt⟩ := hrange.exists_hasUnits hmem
  obtain ⟨bucket, hbucket, -⟩ := Bucket.exists_ofValue_hasUnits hunits hfour hlt
  exact ⟨bucket, hbucket⟩

/-- On values in range the key of a bucket may be left out: no bucket there is a negative zero. -/
theorem InRange.countP_eq {values : List Binary64} (hrange : InRange values) (bucket : Binary64) :
    values.countP (key? · = some bucket) = occurrences values bucket := by
  refine List.countP_congr fun value hmem => ?_
  obtain ⟨units, hunits, hfour, hlt⟩ := hrange.exists_hasUnits hmem
  obtain ⟨edge, hedge, hkey, -⟩ := exists_key?_hasUnits hunits hfour hlt
  rw [hedge, hkey]
  rfl

/-- A bucket that is listed for values in range is its own bucket. -/
theorem InRange.fixed {values : List Binary64} (hrange : InRange values) {counts : BucketCounts}
    (hcounts : ofValues values = .ok counts) {bucket : Binary64}
    (hmem : bucket ∈ counts.entries.map Prod.fst) : Bucket.ofValue bucket = .ok bucket := by
  rcases (mem_addAll_iff hcounts bucket).mp hmem with hnone | ⟨amount, hamount, hbucket⟩
  · cases hnone
  · obtain ⟨value, hvalue, rfl⟩ := List.mem_map.mp hamount
    obtain ⟨units, hunits, hfour, hlt⟩ := hrange.exists_hasUnits hvalue
    obtain ⟨edge, -, hkey, hedge⟩ := exists_key?_hasUnits hunits hfour hlt
    obtain rfl : edge = bucket := Option.some.inj (hkey.symm.trans hbucket)
    exact Bucket.ofValue_of_cut hfour hedge hunits.lt_overflow

theorem InRange.countsOf {values : List Binary64} (hrange : InRange values) {counts : BucketCounts}
    (hcounts : ofValues values = .ok counts) : counts.CountsOf values := by
  have hobserves := observes_ofValues hcounts
  have hexact (entry : Binary64 × Binary64) (hmem : entry ∈ counts.entries) :
      0 < occurrences values entry.1 ∧ entry.2 = ofNat (min (occurrences values entry.1) (2 ^ 53)) := by
    have hentry := hobserves.of_mem hmem
    rwa [hrange.countP_eq] at hentry
  have hlisted (bucket : Binary64) :
      bucket ∈ counts.entries.map Prod.fst ↔ 0 < occurrences values bucket := by
    rw [mem_addAll_iff hcounts, ← hrange.countP_eq, List.countP_pos_iff]
    simp [empty]
  refine ⟨counts.distinct, hlisted, fun entry hmem => hrange.fixed hcounts (List.mem_map_of_mem hmem),
    fun entry hmem => (hexact entry hmem).2, fun entry hmem => ?_, fun hfits => ?_⟩
  · obtain ⟨hpos, hcount⟩ := hexact entry hmem
    rw [hcount]
    exact zero_lt_ofRatio (Nat.mul_pos (Nat.lt_min.mpr ⟨hpos, by decide⟩) Binary64.one_pos)
  · have hnumbers : counts.entries.map Prod.snd =
        (counts.entries.map fun entry => values.countP (key? · = some entry.1)).map ofNat := by
      rw [List.map_map]
      refine List.map_congr_left fun entry hmem => ?_
      have hsmall : occurrences values entry.1 ≤ 2 ^ 53 := List.countP_le_length.trans hfits
      rw [(hexact entry hmem).2, Nat.min_eq_left hsmall, Function.comp_apply, hrange.countP_eq]
    have hsum := sum_countP_eq_length hcounts
    rw [← hsum] at hfits
    rw [hnumbers, literal_eq_ofNat, foldl_add_ofNat _ ((Nat.zero_add _).trans_le hfits), Nat.zero_add,
      hsum]

/-- Two histograms add up to the histogram of the joined lists. -/
theorem getD_append {xs ys : List Binary64} {a b both : BucketCounts}
    (ha : ofValues xs = .ok a) (hb : ofValues ys = .ok b) (hboth : ofValues (xs ++ ys) = .ok both)
    (hfits : (xs ++ ys).length ≤ 2 ^ 53) (bucket : Binary64) :
    (both.get? bucket).getD 0 = (a.get? bucket).getD 0 + (b.get? bucket).getD 0 := by
  have hbound := List.countP_le_length (p := (key? · = some (key bucket))) (l := xs ++ ys)
  rw [observes_ofValues ha bucket, observes_ofValues hb bucket, observes_ofValues hboth bucket]
  have hall := hbound.trans hfits
  simp only [List.countP_append, getD_countOf?] at hall ⊢
  have hleft := (Nat.le_add_right _ _).trans hall
  have hright := (Nat.le_add_left _ _).trans hall
  rw [Nat.min_eq_left hall, Nat.min_eq_left hleft, Nat.min_eq_left hright, ofNat_add_ofNat hleft hright]

/-! ### Values without a bucket -/

/-- Counting stops at the value: it is refused, or the search for its octave does not end. -/
def Stops (value : Binary64) (failure : Failure) : Prop :=
  (value.isFinite = false ∨ le value 0 = true) ∧ failure = .invalidBucketValue value ∨
    value.isFinite = true ∧ lt 0 value = true ∧ lt value Bucket.searchEnd = false ∧
      failure = .endless value

/-- A finite number that is not above zero is at or below it. -/
theorem not_positive_iff {value : Binary64} :
    ¬ (value.isFinite = true ∧ lt 0 value = true) ↔ value.isFinite = false ∨ le value 0 = true := by
  have hzero : rank? 0 = some (0 * one : Int) := isInt_zero
  rw [not_and_or, Bool.not_eq_true]
  refine or_congr_right' fun hfinite => ?_
  obtain ⟨place, hplace⟩ := exists_rank?_of_isFinite (Bool.not_eq_false _ ▸ hfinite)
  simp [lt, le, hplace, hzero]

/-- The values at which the histogram of a list is given up are those without a bucket. -/
theorem stops_iff {value : Binary64} {failure : Failure} :
    Stops value failure ↔
      Bucket.isCounted value = false ∧ failure = Bucket.refusal value := by
  rw [Stops, ← not_positive_iff]
  by_cases hpositive : value.isFinite = true ∧ lt 0 value = true
  · obtain ⟨hfinite, hpos⟩ := hpositive
    simp [Bucket.isCounted, Bucket.refusal_of_positive, hfinite, hpos]
  · have hcounted : Bucket.isCounted value = false := by
      rw [Bucket.isCounted, Bool.and_eq_false_iff]
      exact .inl (by rwa [← Bool.not_eq_true, Bool.and_eq_true])
    simp only [hpositive, hcounted, Bucket.refusal_of_not_positive hpositive, ← and_assoc, false_and,
      not_false_eq_true, true_and, or_false]

/-- The first value without a bucket decides how counting stops. -/
theorem ofValues_eq_error_iff {values : List Binary64} {failure : Failure} :
    ofValues values = .error failure ↔ ∃ before value after, values = before ++ value :: after ∧
      (∀ earlier ∈ before, Bucket.isCounted earlier = true) ∧ Stops value failure := by
  have hold : ofValues values = .error failure ↔
      ∃ value, values.find? (!Bucket.isCounted ·) = some value ∧ failure = Bucket.refusal value := by
    have houtcome := addAll_outcome empty (values.map fun value => (value, 1))
    rw [List.find?_map] at houtcome
    simp only [Function.comp_def] at houtcome
    rw [ofValues]
    cases hfind : values.find? (!Bucket.isCounted ·) with
    | none =>
      rw [hfind] at houtcome
      obtain ⟨counts, hcounts⟩ := houtcome
      simp [hcounts]
    | some value =>
      rw [hfind] at houtcome
      simp only [Option.map_some] at houtcome
      simp [houtcome, eq_comm]
  simp only [hold, stops_iff, List.find?_eq_some_iff_append, Bool.not_eq_true', Bool.not_not]
  constructor
  · rintro ⟨value, ⟨hbad, before, after, hvalues, hearlier⟩, hfailure⟩
    exact ⟨before, value, after, hvalues, hearlier, hbad, hfailure⟩
  · rintro ⟨before, value, after, hvalues, hearlier, hbad, hfailure⟩
    exact ⟨value, ⟨hbad, before, after, hvalues, hearlier⟩, hfailure⟩

/-- Values of at least `2 ^ -1072` before the end of the search are counted by their buckets, whatever
their order: another order leaves the same counts, and joined lists leave the sums of the counts. For
lists in general the first value without a bucket decides: one that is not finite or not positive is
refused, and at one beyond the end of the search counting never ends. -/
theorem values_counted_in_any_order {xs ys : List Binary64} (hxs : InRange xs) (hys : InRange ys) :
    ∃ a b both, ofValues xs = .ok a ∧ ofValues ys = .ok b ∧ ofValues (xs ++ ys) = .ok both ∧
      a.CountsOf xs ∧
      (∀ others, xs.Perm others → ∃ c, ofValues others = .ok c ∧ a.same c = true) ∧
      ((xs ++ ys).length ≤ 2 ^ 53 → ∀ bucket,
        (both.get? bucket).getD 0 = (a.get? bucket).getD 0 + (b.get? bucket).getD 0) ∧
      ∀ values failure, ofValues values = .error failure ↔
        ∃ before value after, values = before ++ value :: after ∧
          (∀ earlier ∈ before, Bucket.isCounted earlier = true) ∧ Stops value failure := by
  have hjoined : InRange (xs ++ ys) := List.forall_mem_append.mpr ⟨hxs, hys⟩
  obtain ⟨a, ha⟩ := hxs.exists_ofValues
  obtain ⟨b, hb⟩ := hys.exists_ofValues
  obtain ⟨both, hboth⟩ := hjoined.exists_ofValues
  refine ⟨a, b, both, ha, hb, hboth, hxs.countsOf ha, fun others hperm => ?_,
    fun hfits => getD_append ha hb hboth hfits, fun values failure => ofValues_eq_error_iff⟩
  have hothers : InRange others := fun value hmem => hxs value (hperm.mem_iff.mpr hmem)
  obtain ⟨c, hc⟩ := hothers.exists_ofValues
  have hobserves := observes_ofValues hc
  simp only [← hperm.countP_eq] at hobserves
  exact ⟨c, hc, (observes_ofValues ha).same hobserves⟩

theorem inRange_ofNat {numbers : List Nat}
    (hnumbers : ∀ number ∈ numbers, 0 < number ∧ number < 2 ^ 53) : InRange (numbers.map ofNat) := by
  refine List.forall_mem_map.mpr fun number hmem => ?_
  obtain ⟨hpos, hlt⟩ := hnumbers number hmem
  have hunits := hasUnits_ofNat hlt
  have hone : 2 ^ 2 ≤ one := by
    unfold one
    exact @two_pow_mul_two_pow_le 2 0 1074 (by decide)
  exact ⟨hunits.isFinite,
    (hunits.two_pow_le_iff 2).mpr (hone.trans (Nat.le_mul_of_pos_left one hpos)),
    Bucket.lt_searchEnd_of_le hunits (Nat.mul_le_mul_right _ hlt.le)⟩

theorem values_counted_in_any_order_repeatedValues :
    InRange [3, 15, 3] ∧ InRange [14, 3] ∧
      ∃ a b both, ofValues [3, 15, 3] = .ok a ∧ ofValues [14, 3] = .ok b ∧
        ofValues [3, 15, 3, 14, 3] = .ok both ∧ a.CountsOf [3, 15, 3] ∧
        (∃ c, ofValues [15, 3, 3] = .ok c ∧ a.same c = true) ∧
        (both.get? 14).getD 0 = (a.get? 14).getD 0 + (b.get? 14).getD 0 ∧
        ofValues [3, 0, .nan] = .error (.invalidBucketValue 0) := by
  have hxs : InRange [3, 15, 3] := inRange_ofNat (show ∀ number ∈ [3, 15, 3], _ by decide)
  have hys : InRange [14, 3] := inRange_ofNat (show ∀ number ∈ [14, 3], _ by decide)
  obtain ⟨a, b, both, ha, hb, hboth, hcounts, horder, hsums, hrefused⟩ :=
    values_counted_in_any_order hxs hys
  refine ⟨hxs, hys, a, b, both, ha, hb, hboth, hcounts, horder _ (.swap 15 3 [3]),
    hsums (by decide) 14, (hrefused _ _).mpr ⟨[3], 0, [.nan], rfl, by decide +kernel, .inl ⟨.inr ?_, rfl⟩⟩⟩
  exact zero_le_iff.mpr ⟨_, isInt_zero, (Int.zero_mul _).ge⟩

/-- The greatest number is finite and positive, but no list with it is counted or refused: the halving
has no end, and what stands behind it in the list is never looked at. -/
theorem values_uncounted_of_greatest :
    Bucket.greatest.isFinite = true ∧ 2 ^ (-1072 : ℤ) ≤ Bucket.greatest.toRat ∧
    ofValues [Bucket.greatest] = .error (.endless Bucket.greatest) ∧
    ofValues [Bucket.greatest, 0] = .error (.endless Bucket.greatest) ∧
    ∃ units, Bucket.greatest.HasUnits units ∧ ∀ rounds last,
      ¬ Bucket.Lowers Bucket.greatest rounds (Bucket.powerOfTwo (Bucket.logExponent units)) last := by
  have hnever (rest : List Binary64) :
      ofValues (Bucket.greatest :: rest) = .error (.endless Bucket.greatest) := by
    rw [ofValues, List.map_cons, addAll_cons_of_error Bucket.ofValue_greatest]
  obtain ⟨hfinite, hpos⟩ := Bucket.greatest_positive
  obtain ⟨units, hunits, hunitsPos⟩ := exists_hasUnits_of_pos hfinite hpos
  refine ⟨hfinite, ?_, hnever [], hnever [0], units, hunits,
    (Bucket.ofValue_eq_endless_iff hunits hunitsPos).mp Bucket.ofValue_greatest⟩
  have hbeyond : Bucket.searchEndUnits ≤ units := by
    rw [← Nat.not_lt, ← hunits.lt_iff Bucket.hasUnits_searchEnd]
    decide +kernel
  have hgap := Bucket.lastGap_pos
  refine (hunits.two_pow_le_iff 2).mpr (le_trans ?_ hbeyond)
  unfold Bucket.searchEndUnits
  omega

end BucketCounts

end ExporterAudit
