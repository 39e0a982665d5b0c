import ExporterAudit.Proofs.Exposition.Occupancy

/-!
What the buckets of a histogram have to do with the integer counts of its bucket lines. Each change of
the count from one line to the next goes to the bucket of the line, so the changes telescope to the
last count, whichever lines repeat the count before them.

Main statement: the buckets are those that some change falls on, with the sum of its changes each, and
the counts of all buckets add up to the last count. This is exact as long as no change and no running
sum of a bucket has to be rounded; counts that never fall do not get there.
-/

namespace ExporterAudit

open Binary64 BucketCounts

/-- The line reports an integer below `2 ^ 53`. -/
def Sample.Reports (sample : Sample) (number : Int) : Prop :=
  sample.value.IsInt number ∧ number.natAbs < 2 ^ 53

instance : DecidableRel Sample.Reports := fun sample number =>
  inferInstanceAs (Decidable (sample.value.IsInt number ∧ number.natAbs < 2 ^ 53))

/-- The line counts an integer, of any size. -/
def Sample.Counts (sample : Sample) (number : Int) : Prop :=
  sample.value.isFinite = true ∧ sample.value.IsInt number

instance : DecidableRel Sample.Counts := fun sample number =>
  inferInstanceAs (Decidable (sample.value.isFinite = true ∧ sample.value.IsInt number))

theorem Sample.Reports.counts {sample : Sample} {number : Int} (hreports : sample.Reports number) :
    sample.Counts number :=
  ⟨hreports.1.isFinite hreports.2, hreports.1⟩

namespace Run

/-- The lines of a run report the integers in their order. -/
def Reports : List Sample → (numbers : List Int) → Prop :=
  List.Forall₂ Sample.Reports

instance : DecidableRel Reports :=
  inferInstanceAs (DecidableRel (List.Forall₂ Sample.Reports))

theorem natAbs_getLastD_lt {run : List Sample} {numbers : List Int} (hreports : Reports run numbers)
    {previous : Int} (hsmall : previous.natAbs < 2 ^ 53) :
    (numbers.getLastD previous).natAbs < 2 ^ 53 := by
  induction hreports generalizing previous with
  | nil => exact hsmall
  | cons hfirst hrest ih =>
    rw [List.getLastD_cons]
    exact ih hfirst.2

/-- The changes of the reported numbers, each with the bucket of its line. A line that repeats the
number before it has none. -/
def steps : (previous : Int) → List Sample → (numbers : List Int) → List (Option Binary64 × Int)
  | previous, sample :: rest, number :: numbers =>
    if number = previous then
      steps number rest numbers
    else
      (sample.bucket?, number - previous) :: steps number rest numbers
  | _, _, _ => []

/-- The changes lead from the number before the run to its last one. -/
theorem sum_steps {relation : Sample → Int → Prop} {run : List Sample} {numbers : List Int}
    (hreports : List.Forall₂ relation run numbers) (previous : Int) :
    ((steps previous run numbers).map Prod.snd).sum = numbers.getLastD previous - previous := by
  induction hreports generalizing previous with
  | nil => simp [steps]
  | @cons sample number rest numbers hfirst hrest ih =>
    rw [steps, List.getLastD_cons]
    split
    · next hrepeats => rw [ih, hrepeats]
    · rw [List.map_cons, List.sum_cons, ih]
      omega

/-- Counts that never fall change upwards only, as repeated counts make no change. -/
theorem pos_of_mem_steps {relation : Sample → Int → Prop} {run : List Sample} {numbers : List Int}
    (hreports : List.Forall₂ relation run numbers) {previous : Int}
    (hrises : (previous :: numbers).IsChain (· ≤ ·)) :
    ∀ change ∈ steps previous run numbers, 0 < change.2 := by
  induction hreports generalizing previous with
  | nil => simp [steps]
  | @cons sample number rest numbers hfirst hrest ih =>
    obtain ⟨hle, hlater⟩ := List.isChain_cons_cons.mp hrises
    rw [steps]
    split
    · exact ih hlater
    · refine List.forall_mem_cons.mpr ⟨?_, ih hlater⟩
      show 0 < number - previous
      omega

/-- The lines that are kept count the changes into their buckets. -/
theorem applies_steps_of_counts {run : List Sample} {numbers : List Int}
    (hcounts : List.Forall₂ Sample.Counts run numbers) {last : Binary64} {previous : Int}
    (hlast : last.IsInt previous) (hlastFinite : last.isFinite = true)
    {buckets : List CumulativeBucket}
    (hbuckets : (kept last run).mapM Sample.toBucket? = some buckets) :
    List.Forall₂ Applies (CumulativeBucket.occupancy last buckets) (steps previous run numbers) := by
  induction hcounts generalizing last previous buckets with
  | nil =>
    cases hbuckets
    exact .nil
  | @cons sample number rest numbers hfirst hrest ih =>
    obtain ⟨hfinite, hnumber⟩ := hfirst
    have hzero : (sample.value - last).equals 0 = true ↔ number = previous :=
      (sub_equals_zero_iff hfinite hlastFinite).trans (hnumber.equals_iff hlast)
    rw [steps]
    split
    · next hrepeats =>
      rw [kept_cons_of_repeats (hzero.mpr hrepeats)] at hbuckets
      exact ih (hrepeats ▸ hlast) hlastFinite hbuckets
    · next hchanges =>
      obtain ⟨value, later, hvalue, hmapped, heq⟩ :=
        occupancy_kept_cons (hzero.not.mpr hchanges) hbuckets
      rw [heq]
      refine .cons ⟨hvalue, fun hchange => ?_⟩ (ih hnumber hfinite hmapped)
      exact hnumber.sub_of_representable hlast hfinite hlastFinite hchange

/-- The amounts of the kept lines are the changes of the counts, one by one. -/
theorem applies_steps {run : List Sample} {numbers : List Int} (hreports : Reports run numbers)
    {last : Binary64} {previous : Int} (hlast : last.IsInt previous)
    (hsmall : previous.natAbs < 2 ^ 53) {buckets : List CumulativeBucket}
    (hbuckets : (kept last run).mapM Sample.toBucket? = some buckets) :
    List.Forall₂ Applies (CumulativeBucket.occupancy last buckets) (steps previous run numbers) :=
  applies_steps_of_counts (hreports.imp fun _ _ => Sample.Reports.counts) hlast
    (hlast.isFinite hsmall) hbuckets

end Run

namespace Exposition

/-- Every histogram that is emitted, also before a failure, is rebuilt from a run on the page, and
holds each change of the numbers that such a run reports in the bucket of its line. Where the numbers
never fall from zero on, nothing is rounded and each count is positive. -/
theorem observations_conserved {filter : SampleFilter} {lines : List Text} {record : Record}
    (hmem : record ∈ (read lines filter).records) {counts : BucketCounts}
    (hvalue : record.value = .histogram counts) :
    (Page.ofTexts lines).Rebuilds filter record ∧
      ∀ name run, Run.rebuilt? name run = some record → ∀ numbers, Run.Reports run numbers →
        counts.Conserves (Run.steps 0 run numbers) (numbers.getLastD 0) ∧
        ((0 :: numbers).IsChain (· ≤ ·) → ∀ entry ∈ counts.entries,
          Unrounded (changesOn entry.1 (Run.steps 0 run numbers)) ∧ lt 0 entry.2 = true) := by
  refine ⟨rebuilds_of_mem_read hmem hvalue, fun name run hrebuilt numbers hreports => ?_⟩
  obtain ⟨buckets, hbuckets, hadded⟩ := Run.exists_addAll_of_rebuilt? hrebuilt hvalue
  have happlies := Run.applies_steps hreports isInt_zero (by decide) hbuckets
  obtain ⟨hsums, hkeys⟩ := sums_empty.addAll happlies hadded
  have htotal := Run.sum_steps hreports 0
  rw [Int.sub_zero] at htotal
  have hconserves := hsums.conserves hkeys htotal
  refine ⟨hconserves, fun hrises => hconserves.exact_of_pos (Run.pos_of_mem_steps hreports hrises) ?_⟩
  have hlast : (numbers.getLastD 0).natAbs < 2 ^ 53 := Run.natAbs_getLastD_lt hreports (by decide)
  omega

/-- A page with two bounds in one bucket, and lines that repeat a count. -/
def sharedBucketPage : List Text :=
  ["# TYPE wait histogram".toList,
    "wait_bucket\x7ble=\"2\"\x7d 1".toList,
    "wait_bucket\x7ble=\"4\"\x7d 1".toList,
    "wait_bucket\x7ble=\"9\"\x7d 3".toList,
    "wait_bucket\x7ble=\"9.5\"\x7d 4".toList,
    "wait_bucket\x7ble=\"+Inf\"\x7d 4".toList]

def sharedBucketCounts : BucketCounts :=
  .ofPairs [(1, 1), (8, 3)]

theorem observations_conserved_sharedBucketPage :
    .histogram "wait" sharedBucketCounts ∈ (read sharedBucketPage {}).records ∧
    ∃ block ∈ (Page.ofTexts sharedBucketPage).blocks, ∃ run ∈ block.runs {},
      Run.Reports run [1, 1, 3, 4, 4] ∧ ([0, 1, 1, 3, 4, 4] : List Int).IsChain (· ≤ ·) ∧
      sharedBucketCounts.Conserves [(some 1, 1), (some 8, 2), (some 8, 1)] 4 ∧
      ∀ entry ∈ sharedBucketCounts.entries, lt 0 entry.2 = true := by
  have hmem : .histogram "wait" sharedBucketCounts ∈ (read sharedBucketPage {}).records := by
    decide +kernel
  have hruns : ∀ block ∈ (Page.ofTexts sharedBucketPage).blocks, ∀ run ∈ block.runs {},
      Run.Reports run [1, 1, 3, 4, 4] ∧
      Run.steps 0 run [1, 1, 3, 4, 4] = [(some 1, 1), (some 8, 2), (some 8, 1)] := by decide +kernel
  have hrises : ([0, 1, 1, 3, 4, 4] : List Int).IsChain (· ≤ ·) := by decide
  obtain ⟨⟨block, hblock, -, run, hrun, hrebuilt⟩, hconserved⟩ := observations_conserved hmem rfl
  obtain ⟨hreports, hsteps⟩ := hruns block hblock run hrun
  obtain ⟨hconserves, hpositive⟩ := hconserved _ _ hrebuilt _ hreports
  rw [hsteps] at hconserves
  exact ⟨hmem, block, hblock, run, hrun, hreports, hrises, hconserves,
    fun entry hentry => (hpositive hrises entry hentry).2⟩

/-- A page with two series. In the first one the sum of a bucket outgrows the integers that the format
has, in the second one a single change does. -/
def outgrownPage : List Text :=
  ["# TYPE wait histogram".toList,
    "wait_bucket\x7bshard=\"0\",le=\"2\"\x7d 9007199254740991".toList,
    "wait_bucket\x7bshard=\"0\",le=\"4\"\x7d 0".toList,
    "wait_bucket\x7bshard=\"0\",le=\"2\"\x7d 9007199254740991".toList,
    "wait_bucket\x7bshard=\"0\",le=\"4\"\x7d 0".toList,
    "wait_bucket\x7bshard=\"0\",le=\"2\"\x7d 9007199254740991".toList,
    "wait_bucket\x7bshard=\"1\",le=\"2\"\x7d -9007199254740991".toList,
    "wait_bucket\x7bshard=\"1\",le=\"2\"\x7d 9007199254740990".toList]

def outgrownSum : BucketCounts :=
  .ofPairs [(1, 27021597764222972), (3, -18014398509481982)]

def outgrownChange : BucketCounts :=
  .ofPairs [(1, 9007199254740989)]

def largestNumber : Int := 2 ^ 53 - 1

/-- Numbers below `2 ^ 53` need not be conserved: the sum of a bucket can be rounded although its
changes are not, and a change can be rounded although the sums are not. -/
theorem observations_not_conserved_of_rounding :
    (read outgrownPage {}).records = [.histogram "wait" outgrownSum, .histogram "wait" outgrownChange] ∧
    (∃ block ∈ (Page.ofTexts outgrownPage).blocks, ∃ run ∈ block.runs {},
      Run.rebuilt? block.name run = some (.histogram "wait" outgrownSum) ∧
      Run.Reports run [largestNumber, 0, largestNumber, 0, largestNumber] ∧
      changesOn 1 (Run.steps 0 run [largestNumber, 0, largestNumber, 0, largestNumber]) =
        [largestNumber, largestNumber, largestNumber]) ∧
    (1, 27021597764222972) ∈ outgrownSum.entries ∧
    ¬ IsInt 27021597764222972 (3 * largestNumber) ∧
    (∃ block ∈ (Page.ofTexts outgrownPage).blocks, ∃ run ∈ block.runs {},
      Run.rebuilt? block.name run = some (.histogram "wait" outgrownChange) ∧
      Run.Reports run [-largestNumber, largestNumber - 1] ∧
      changesOn 1 (Run.steps 0 run [-largestNumber, largestNumber - 1]) =
        [-largestNumber, 2 * largestNumber - 1]) ∧
    (1, 9007199254740989) ∈ outgrownChange.entries ∧
    ¬ IsInt 9007199254740989 (largestNumber - 1) := by
  refine ⟨?records, ?sum, ?sumCount, ?sumRounded, ?change, ?changeCount, ?changeRounded⟩
  all_goals decide +kernel

end Exposition

end ExporterAudit
