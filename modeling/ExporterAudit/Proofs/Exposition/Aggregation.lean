import ExporterAudit.Proofs.BucketCounts.Differences
import ExporterAudit.Proofs.Exposition.Conservation

/-!
Histograms that are added up. A server that reports, under each bound, the sum of the counts of two
series reports a histogram whose buckets are the sums of theirs. The three series drop different lines,
so they are compared by how much the counts change on a bucket, line by line, the repeated ones too.

Main statement: a bucket of the summed series counts what it counts in the two others together, as far as
nothing is rounded there. Counts of observations are not rounded on a bucket whose bounds follow one
another, and where they never fall, no bucket is gained or lost either.
-/

namespace ExporterAudit

open Binary64 BucketCounts

namespace Run

/-- The lines of a run count the integers, each under its bound. -/
structure CountsOver (bounds : List Binary64) (numbers : List Int) (run : List Sample) : Prop where
  bounds : run.map Sample.bound? = bounds.map some
  counts : List.Forall₂ Sample.Counts run numbers

instance (bounds : List Binary64) (numbers : List Int) (run : List Sample) :
    Decidable (CountsOver bounds numbers run) :=
  decidable_of_iff (run.map Sample.bound? = bounds.map some ∧ List.Forall₂ Sample.Counts run numbers)
    ⟨fun h => ⟨h.1, h.2⟩, fun h => ⟨h.1, h.2⟩⟩

theorem CountsOver.length_eq {bounds : List Binary64} {numbers : List Int} {run : List Sample}
    (hover : CountsOver bounds numbers run) : numbers.length = bounds.length := by
  rw [← hover.counts.length_eq, ← List.length_map (f := Sample.bound?), hover.bounds, List.length_map]

/-- What falls on a bucket depends on the bounds and the numbers alone. -/
theorem changesOn_steps {bounds : List Binary64} {numbers : List Int} {run : List Sample}
    (hover : CountsOver bounds numbers run) (bucket : Binary64) (previous : Int) :
    changesOn bucket (steps previous run numbers) = differencesOn bucket previous bounds numbers := by
  obtain ⟨hbounds, hcounts⟩ := hover
  induction hcounts generalizing bounds previous with
  | nil =>
    obtain rfl := List.map_eq_nil_iff.mp hbounds.symm
    rfl
  | @cons sample number rest numbers hfirst hrest ih =>
    obtain ⟨bound, bounds, rfl, hbound, hothers⟩ := List.map_eq_cons_iff.mp hbounds.symm
    have hbucket : sample.bucket? = key? (bound - 1) := by
      rw [Sample.bucket?, ← hbound]
      rfl
    rw [steps, differencesOn, ← ih number hothers.symm]
    by_cases hrepeats : number = previous
    · simp [hrepeats]
    · simp [hrepeats, changesOn_cons, hbucket]

/-- Counts of observations that never fall are not rounded on any bucket. -/
theorem CountsOver.unrounded_of_rises {bounds : List Binary64} {numbers : List Int}
    {run : List Sample} (hover : CountsOver bounds numbers run) (htallied : Tallied numbers)
    (hrises : (0 :: numbers).IsChain (· ≤ ·)) (bucket : Binary64) :
    (∀ change ∈ differencesOn bucket 0 bounds numbers, 0 < change) ∧
      Unrounded (differencesOn bucket 0 bounds numbers) := by
  have hlast : numbers.getLastD 0 < 2 ^ 53 := by
    rcases List.eq_nil_or_concat numbers with rfl | ⟨_, last, rfl⟩
    · decide
    · simpa using (htallied last (by simp)).2
  have htotal := sum_steps hover.counts 0
  rw [← changesOn_steps hover]
  exact unrounded_changesOn (pos_of_mem_steps hover.counts hrises) (by omega) bucket

theorem kept_sublist (last : Binary64) (run : List Sample) : (kept last run).Sublist run := by
  induction run generalizing last with
  | nil => exact .slnil
  | cons sample rest ih =>
    rw [kept]
    split
    · exact (ih last).cons _
    · exact (ih sample.value).cons_cons _

/-- Finite bounds above one leave a bucket below each as long as its octave is found, so the histogram
is rebuilt. -/
theorem CountsOver.exists_rebuilt {bounds : List Binary64} {numbers : List Int} {run : List Sample}
    (hover : CountsOver bounds numbers run)
    (hbounds : ∀ bound ∈ bounds, bound.isFinite = true ∧ lt 1 bound = true ∧
      lt (bound - 1) Bucket.searchEnd = true) (name : Text) :
    ∃ counts, rebuilt? name run = some (.histogram name counts) := by
  have hsome : (rebuilt? name run).isSome = true := by
    refine isSome_ofSamples_iff.mpr fun sample hkept => ?_
    have hmem := List.mem_map_of_mem (f := Sample.bound?) ((kept_sublist 0 run).subset hkept)
    rw [hover.bounds] at hmem
    obtain ⟨bound, hbound, heq⟩ := List.mem_map.mp hmem
    obtain ⟨hfinite, hlt, hsearch⟩ := hbounds bound hbound
    obtain ⟨hbelow, hpos⟩ := sub_one_of_one_lt hfinite hlt
    exact ⟨bound, heq.symm, Bucket.isCounted_eq_true_iff.mpr ⟨hbelow, hpos, hsearch⟩⟩
  obtain ⟨record, hrebuilt⟩ := Option.isSome_iff_exists.mp hsome
  obtain ⟨buckets, -, hrecord⟩ := Option.bind_eq_some_iff.mp hrebuilt
  obtain ⟨counts, -, heq⟩ := bind_eq_ok_iff.mp (toOption_eq_some_iff.mp hrecord)
  cases heq
  exact ⟨counts, hrebuilt⟩

end Run

namespace Exposition

/-- The reader emits these counts for a series on the page with these bounds and numbers. -/
def EmitsFrom (lines : List Text) (filter : SampleFilter) (bounds : List Binary64)
    (numbers : List Int) (counts : BucketCounts) : Prop :=
  ∃ block ∈ (Page.ofTexts lines).blocks, block.type = .histogram ∧
    ∃ run ∈ block.runs filter, Run.CountsOver bounds numbers run ∧
      Run.rebuilt? block.name run = some (.histogram block.name counts) ∧
      .histogram block.name counts ∈ (read lines filter).records

instance (lines : List Text) (filter : SampleFilter) (bounds : List Binary64) (numbers : List Int)
    (counts : BucketCounts) : Decidable (EmitsFrom lines filter bounds numbers counts) :=
  inferInstanceAs (Decidable (∃ block ∈ (Page.ofTexts lines).blocks, _))

/-- The reader emits these counts for a series with these bounds and numbers, on some page. -/
def Emits (bounds : List Binary64) (numbers : List Int) (counts : BucketCounts) : Prop :=
  ∃ lines filter, EmitsFrom lines filter bounds numbers counts

/-- The bucket counts in one histogram what it counts in two others together. A missing bucket counts
zero. -/
def AddsUpOn (bucket : Binary64) (first second total : BucketCounts) : Prop :=
  ∃ m n : Int, ((first.get? bucket).getD 0).IsInt m ∧ ((second.get? bucket).getD 0).IsInt n ∧
    ((total.get? bucket).getD 0).IsInt (m + n)

/-- Sums of counts that stand for integers can be told as sums of integers. -/
theorem AddsUpOn.eq_add {bucket : Binary64} {first second total : BucketCounts}
    (hadds : AddsUpOn bucket first second total) {m n k : Int}
    (hfirst : ((first.get? bucket).getD 0).IsInt m) (hsecond : ((second.get? bucket).getD 0).IsInt n)
    (htotal : ((total.get? bucket).getD 0).IsInt k) : k = m + n := by
  obtain ⟨m', n', hfirst', hsecond', htotal'⟩ := hadds
  rw [htotal.unique htotal', hfirst.unique hfirst', hsecond.unique hsecond']

section

variable {bounds : List Binary64} {numbers : List Int} {counts : BucketCounts}

theorem Emits.length_eq (hemits : Emits bounds numbers counts) : numbers.length = bounds.length := by
  obtain ⟨_, _, _, _, _, _, _, hover, _⟩ := hemits
  exact hover.length_eq

/-- The emitted counts are the sums of the changes. -/
theorem Emits.sums (hemits : Emits bounds numbers counts) :
    (counts.Sums fun bucket => differencesOn bucket 0 bounds numbers) ∧
      ∀ bucket, bucket ∈ counts.entries.map Prod.fst ↔ differencesOn bucket 0 bounds numbers ≠ [] := by
  obtain ⟨_, _, _, _, _, run, _, hover, hrebuilt, _⟩ := hemits
  obtain ⟨buckets, hbuckets, hadded⟩ := Run.exists_addAll_of_rebuilt? hrebuilt rfl
  have hzero : (0 : Binary64).isFinite = true := isInt_zero.isFinite (by decide)
  have happlies := Run.applies_steps_of_counts hover.counts isInt_zero hzero hbuckets
  obtain ⟨hsums, hkeys⟩ := sums_empty.addAll happlies hadded
  have hlisted := hsums.mem_iff hkeys
  simp only [List.nil_append, Run.changesOn_steps hover] at hsums hlisted
  exact ⟨hsums, hlisted⟩

/-- What rising counts of observations leave. -/
theorem Emits.of_rises (hemits : Emits bounds numbers counts) (htallied : Tallied numbers)
    (hrises : (0 :: numbers).IsChain (· ≤ ·)) (bucket : Binary64) :
    Unrounded (differencesOn bucket 0 bounds numbers) ∧
      0 ≤ (differencesOn bucket 0 bounds numbers).sum ∧
      (bucket ∈ counts.entries.map Prod.fst ↔ 0 < (differencesOn bucket 0 bounds numbers).sum) := by
  obtain ⟨-, hlisted⟩ := hemits.sums
  obtain ⟨_, _, _, _, _, run, _, hover, _⟩ := hemits
  obtain ⟨hpos, hunrounded⟩ := hover.unrounded_of_rises htallied hrises bucket
  refine ⟨hunrounded, List.sum_nonneg fun change hmem => (hpos change hmem).le, ?_⟩
  rw [hlisted]
  refine ⟨List.sum_pos _ hpos, fun hsum hnone => ?_⟩
  rw [hnone] at hsum
  exact hsum.false

end

section

variable {bounds : List Binary64} {first second : List Int} {a b total : BucketCounts}

/-- What a bucket holds is additive wherever all three series are exact. -/
theorem Emits.addsUpOn (ha : Emits bounds first a) (hb : Emits bounds second b)
    (htotal : Emits bounds (List.zipWith (· + ·) first second) total) {bucket : Binary64}
    (hfirst : Unrounded (differencesOn (key bucket) 0 bounds first))
    (hsecond : Unrounded (differencesOn (key bucket) 0 bounds second))
    (hboth : Unrounded (differencesOn (key bucket) 0 bounds (List.zipWith (· + ·) first second))) :
    AddsUpOn bucket a b total := by
  have hsum := sum_differencesOn_zipWith (key bucket) ha.length_eq hb.length_eq 0 0
  rw [Int.add_zero] at hsum
  have hexact := (htotal.sums.1.exact_getD bucket hboth).2
  rw [hsum] at hexact
  exact ⟨_, _, (ha.sums.1.exact_getD bucket hfirst).2, (hb.sums.1.exact_getD bucket hsecond).2, hexact⟩

/-- On a bucket whose bounds follow one another no count of observations is rounded, falling or not.
-/
theorem Emits.addsUpOn_of_together (ha : Emits bounds first a) (hb : Emits bounds second b)
    (htotal : Emits bounds (List.zipWith (· + ·) first second) total)
    (hsmall : ∀ sum ∈ List.zipWith (· + ·) first second, sum < 2 ^ 53)
    (hfirst : ∀ number ∈ first, 0 ≤ number) (hsecond : ∀ number ∈ second, 0 ≤ number)
    {bucket : Binary64} (htogether : Together (key bucket) bounds) : AddsUpOn bucket a b total := by
  have hlength := ha.length_eq.trans hb.length_eq.symm
  obtain ⟨htallied, htallied', hboth⟩ := tallied_of_zipWith hlength hfirst hsecond hsmall
  exact ha.addsUpOn hb htotal (htogether.unrounded htallied) (htogether.unrounded htallied')
    (htogether.unrounded hboth)

/-- Where counts never fall nothing is rounded anywhere, and the summed series lists the buckets of
both. -/
theorem Emits.addsUpOn_of_rises (ha : Emits bounds first a) (hb : Emits bounds second b)
    (htotal : Emits bounds (List.zipWith (· + ·) first second) total)
    (hsmall : ∀ sum ∈ List.zipWith (· + ·) first second, sum < 2 ^ 53)
    (hfirst : (0 :: first).IsChain (· ≤ ·)) (hsecond : (0 :: second).IsChain (· ≤ ·))
    (bucket : Binary64) :
    AddsUpOn bucket a b total ∧
      (bucket ∈ total.entries.map Prod.fst ↔
        bucket ∈ a.entries.map Prod.fst ∨ bucket ∈ b.entries.map Prod.fst) := by
  have hnonneg {numbers : List Int} (hrises : (0 :: numbers).IsChain (· ≤ ·)) :
      ∀ number ∈ numbers, 0 ≤ number := fun number => List.rel_of_pairwise_cons hrises.pairwise
  have hlength := ha.length_eq.trans hb.length_eq.symm
  obtain ⟨htallied, htallied', htalliedBoth⟩ :=
    tallied_of_zipWith hlength (hnonneg hfirst) (hnonneg hsecond) hsmall
  have hboth := isChain_zipWith_add hfirst hsecond
  constructor
  · apply ha.addsUpOn hb htotal
    · exact (ha.of_rises htallied hfirst _).1
    · exact (hb.of_rises htallied' hsecond _).1
    · exact (htotal.of_rises htalliedBoth hboth _).1
  · have hsum := sum_differencesOn_zipWith bucket ha.length_eq hb.length_eq 0 0
    rw [Int.add_zero] at hsum
    obtain ⟨-, hpos, hlisted⟩ := ha.of_rises htallied hfirst bucket
    obtain ⟨-, hpos', hlisted'⟩ := hb.of_rises htallied' hsecond bucket
    obtain ⟨-, -, hlistedBoth⟩ := htotal.of_rises htalliedBoth hboth bucket
    rw [hlisted, hlisted', hlistedBoth, hsum]
    omega

/-- The histogram of the sums of two series adds up the histograms of both, on every bucket on which
nothing is rounded. Of sums below `2 ^ 53`, nothing is rounded on a bucket whose bounds follow one
another if no count is negative, and nothing at all if the counts never fall; then no bucket is gained
or lost either. Over finite bounds above one, up to the end of the search for an octave, all series are
rebuilt. -/
theorem summed_series_adds_up (ha : Emits bounds first a) (hb : Emits bounds second b)
    (htotal : Emits bounds (List.zipWith (· + ·) first second) total) :
    ((∀ bound ∈ bounds, bound.isFinite = true ∧ lt 1 bound = true ∧
        lt (bound - 1) Bucket.searchEnd = true) → ∀ name numbers run,
      Run.CountsOver bounds numbers run →
        ∃ counts, Run.rebuilt? name run = some (.histogram name counts)) ∧
    (∀ bucket, Unrounded (differencesOn (key bucket) 0 bounds first) →
      Unrounded (differencesOn (key bucket) 0 bounds second) →
      Unrounded (differencesOn (key bucket) 0 bounds (List.zipWith (· + ·) first second)) →
        AddsUpOn bucket a b total) ∧
    ((∀ sum ∈ List.zipWith (· + ·) first second, sum < 2 ^ 53) →
      ((∀ number ∈ first, 0 ≤ number) → (∀ number ∈ second, 0 ≤ number) →
        ∀ bucket, Together (key bucket) bounds → AddsUpOn bucket a b total) ∧
      ((0 :: first).IsChain (· ≤ ·) → (0 :: second).IsChain (· ≤ ·) → ∀ bucket,
        AddsUpOn bucket a b total ∧
        (bucket ∈ total.entries.map Prod.fst ↔
          bucket ∈ a.entries.map Prod.fst ∨ bucket ∈ b.entries.map Prod.fst))) := by
  refine ⟨fun hbounds name numbers run hover => hover.exists_rebuilt hbounds name, ?_, fun hsmall => ?_⟩
  · intro bucket hfirst hsecond hboth
    exact ha.addsUpOn hb htotal hfirst hsecond hboth
  · constructor
    · intro hfirst hsecond bucket htogether
      exact ha.addsUpOn_of_together hb htotal hsmall hfirst hsecond htogether
    · intro hfirst hsecond bucket
      exact ha.addsUpOn_of_rises hb htotal hsmall hfirst hsecond bucket

end

/-- A page with two shards, each with a line that repeats the count before it, and their sum. -/
def summedPage : List Text :=
  ["# TYPE wait histogram".toList,
    "wait_bucket\x7bshard=\"0\",le=\"2\"\x7d 1".toList,
    "wait_bucket\x7bshard=\"0\",le=\"4\"\x7d 1".toList,
    "wait_bucket\x7bshard=\"0\",le=\"9\"\x7d 3".toList,
    "wait_bucket\x7bshard=\"1\",le=\"2\"\x7d 0".toList,
    "wait_bucket\x7bshard=\"1\",le=\"4\"\x7d 2".toList,
    "wait_bucket\x7bshard=\"1\",le=\"9\"\x7d 5".toList,
    "wait_bucket\x7ble=\"2\"\x7d 1".toList,
    "wait_bucket\x7ble=\"4\"\x7d 3".toList,
    "wait_bucket\x7ble=\"9\"\x7d 8".toList]

theorem summed_series_adds_up_summedPage :
    let first := .ofPairs [(1, 1), (8, 2)]
    let second := .ofPairs [(3, 2), (8, 3)]
    let total := .ofPairs [(1, 1), (3, 2), (8, 5)]
    EmitsFrom summedPage {} [2, 4, 9] [1, 1, 3] first ∧
      EmitsFrom summedPage {} [2, 4, 9] [0, 2, 5] second ∧
      EmitsFrom summedPage {} [2, 4, 9] [1, 3, 8] total ∧
      ∀ bucket, AddsUpOn bucket first second total := by
  intro first second total
  have hpage : EmitsFrom summedPage {} [2, 4, 9] [1, 1, 3] first ∧
      EmitsFrom summedPage {} [2, 4, 9] [0, 2, 5] second ∧
      EmitsFrom summedPage {} [2, 4, 9] [1, 3, 8] total := by decide +kernel
  obtain ⟨hfirst, hsecond, htotal⟩ := hpage
  obtain ⟨-, -, hsmall⟩ :=
    summed_series_adds_up ⟨_, _, hfirst⟩ ⟨_, _, hsecond⟩ ⟨_, _, htotal⟩
  obtain ⟨-, hrising⟩ := hsmall (by decide)
  exact ⟨hfirst, hsecond, htotal, fun bucket => (hrising (by decide) (by decide) bucket).1⟩

/-- The reader emits two series and their sum from one page, but the sum does not add up on a
bucket. -/
def SumIsOff (bucket : Binary64) (bounds : List Binary64) (first second : List Int) : Prop :=
  (∀ bound ∈ bounds, bound.isFinite = true ∧ lt 1 bound = true) ∧
  (∀ sum ∈ List.zipWith (· + ·) first second, sum < 2 ^ 53) ∧
  ∃ lines filter a b total, (EmitsFrom lines filter bounds first a ∧
    EmitsFrom lines filter bounds second b ∧
    EmitsFrom lines filter bounds (List.zipWith (· + ·) first second) total) ∧
    ¬ AddsUpOn bucket a b total

/-- Counts of observations over bounds that leave a bucket and come back to it. -/
def scatteredPage : List Text :=
  ["# TYPE wait histogram".toList,
    "wait_bucket\x7bshard=\"0\",le=\"2\"\x7d 9007199254740991".toList,
    "wait_bucket\x7bshard=\"0\",le=\"4\"\x7d 0".toList,
    "wait_bucket\x7bshard=\"0\",le=\"2.0625\"\x7d 0".toList,
    "wait_bucket\x7bshard=\"0\",le=\"2.125\"\x7d 0".toList,
    "wait_bucket\x7bshard=\"1\",le=\"2\"\x7d 0".toList,
    "wait_bucket\x7bshard=\"1\",le=\"4\"\x7d 0".toList,
    "wait_bucket\x7bshard=\"1\",le=\"2.0625\"\x7d 9007199254740990".toList,
    "wait_bucket\x7bshard=\"1\",le=\"2.125\"\x7d 0".toList,
    "wait_bucket\x7ble=\"2\"\x7d 9007199254740991".toList,
    "wait_bucket\x7ble=\"4\"\x7d 0".toList,
    "wait_bucket\x7ble=\"2.0625\"\x7d 9007199254740990".toList,
    "wait_bucket\x7ble=\"2.125\"\x7d 0".toList]

/-- Bounds in their order, over which the counts rise from below zero. -/
def risingPage : List Text :=
  ["# TYPE wait histogram".toList,
    "wait_bucket\x7bshard=\"0\",le=\"2\"\x7d -9007199254740991".toList,
    "wait_bucket\x7bshard=\"0\",le=\"2.125\"\x7d 9007199254740990".toList,
    "wait_bucket\x7bshard=\"1\",le=\"2\"\x7d 0".toList,
    "wait_bucket\x7bshard=\"1\",le=\"2.125\"\x7d 1".toList,
    "wait_bucket\x7ble=\"2\"\x7d -9007199254740991".toList,
    "wait_bucket\x7ble=\"2.125\"\x7d 9007199254740991".toList]

/-- Sums below `2 ^ 53` need not add up: the changes on a bucket can outgrow the integers of the format
where the bounds do not follow one another, and where counts are negative. -/
theorem sum_is_off_of_rounding :
    SumIsOff 1 [2, 4, 33 / 16, 17 / 8] [largestNumber, 0, 0, 0] [0, 0, largestNumber - 1, 0] ∧
    SumIsOff 1 [2, 17 / 8] [-largestNumber, largestNumber - 1] [0, 1] := by
  constructor
  · refine ⟨by decide +kernel, by decide, scatteredPage, {},
      .ofPairs [(1, 9007199254740991), (3, -9007199254740991)], .ofPairs [(1, 0)],
      .ofPairs [(1, 9007199254740990), (3, -9007199254740991)], by decide +kernel, fun hadds => ?_⟩
    have hsum := hadds.eq_add (m := largestNumber) (n := 0) (k := largestNumber - 1)
      (by decide +kernel) (by decide +kernel) (by decide +kernel)
    exact absurd hsum (by decide)
  · refine ⟨by decide +kernel, by decide, risingPage, {}, .ofPairs [(1, 9007199254740989)],
      .ofPairs [(1, 1)], .ofPairs [(1, 9007199254740991)], by decide +kernel, fun hadds => ?_⟩
    have hsum := hadds.eq_add (m := largestNumber - 2) (n := 1) (k := largestNumber)
      (by decide +kernel) (by decide +kernel) (by decide +kernel)
    exact absurd hsum (by decide)

end Exposition

end ExporterAudit
