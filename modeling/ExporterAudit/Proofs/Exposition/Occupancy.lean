import ExporterAudit.Proofs.BucketCounts.Changes
import ExporterAudit.Proofs.Exposition.Sources

/-!
The observations that the lines of a run stand for. Each line that is kept puts the rise of the count
since the line before it into the bucket below its bound.

Main statement: a bucket on which no line falls below the line before it has a positive count. Where
counts fall, a bucket can be listed with zero or with a negative count.
-/

namespace ExporterAudit

open Binary64 BucketCounts

/-- The bucket that a bucket line counts into: the one of its bound less one, because a bound is an
exclusive limit of whole numbers. -/
def Sample.bucket? (sample : Sample) : Option Binary64 :=
  sample.bound?.bind fun bound => key? (bound - 1)

namespace Run

theorem kept_cons_of_repeats {last : Binary64} {sample : Sample}
    (hrepeats : (sample.value - last).equals 0 = true) (rest : List Sample) :
    kept last (sample :: rest) = kept last rest :=
  if_pos hrepeats

/-- A line that is kept counts its rise into its bucket. -/
theorem occupancy_kept_cons {last : Binary64} {sample : Sample} {rest : List Sample}
    (hchanges : ¬ (sample.value - last).equals 0 = true) {buckets : List CumulativeBucket}
    (hbuckets : (kept last (sample :: rest)).mapM Sample.toBucket? = some buckets) :
    ∃ value later, key? value = sample.bucket? ∧
      (kept sample.value rest).mapM Sample.toBucket? = some later ∧
      CumulativeBucket.occupancy last buckets =
        (value, sample.value - last) :: CumulativeBucket.occupancy sample.value later := by
  rw [kept, if_neg hchanges, List.mapM_cons] at hbuckets
  obtain ⟨bucket, hbucket, hrest⟩ := Option.bind_eq_some_iff.mp hbuckets
  obtain ⟨later, hlater, heq⟩ := Option.bind_eq_some_iff.mp hrest
  obtain ⟨bound, hbound, rfl⟩ := Option.map_eq_some_iff.mp hbucket
  cases heq
  refine ⟨bound - 1, later, ?_, hlater, rfl⟩
  rw [Sample.bucket?, hbound]
  rfl

/-- A rebuilt histogram adds up what the kept lines count. -/
theorem exists_addAll_of_rebuilt? {name : Text} {run : List Sample} {record : Record}
    (hrebuilt : rebuilt? name run = some record) {counts : BucketCounts}
    (hvalue : record.value = .histogram counts) :
    ∃ buckets, (kept 0 run).mapM Sample.toBucket? = some buckets ∧
      empty.addAll (CumulativeBucket.occupancy 0 buckets) = .ok counts := by
  obtain ⟨buckets, hbuckets, hrecord⟩ := Option.bind_eq_some_iff.mp hrebuilt
  obtain ⟨added, hadded, heq⟩ := bind_eq_ok_iff.mp (toOption_eq_some_iff.mp hrecord)
  cases heq
  cases hvalue
  exact ⟨buckets, hbuckets, hadded⟩

/-- The lines of a run, each after the count of the line before it. -/
def withPrevious (previous : Binary64) (run : List Sample) : List (Binary64 × Sample) :=
  (previous :: run.map Sample.value).zip run

/-- No line on the bucket falls below the line before it. -/
def RisesOn (bucket previous : Binary64) (run : List Sample) : Prop :=
  ∀ line ∈ withPrevious previous run, line.2.bucket? = some bucket →
    le line.1 line.2.value = true

instance (bucket previous : Binary64) (run : List Sample) :
    Decidable (RisesOn bucket previous run) :=
  inferInstanceAs (Decidable (∀ line ∈ _, _))

/-- Where no line falls, only positive amounts are counted. -/
theorem zero_lt_of_mem_occupancy {bucket last previous : Binary64} {run : List Sample}
    (hlast : last.isFinite = true) (hsame : last.rank? = previous.rank?)
    (hfinite : ∀ sample ∈ run, sample.value.isFinite = true) (hrises : RisesOn bucket previous run)
    {buckets : List CumulativeBucket}
    (hbuckets : (kept last run).mapM Sample.toBucket? = some buckets) :
    ∀ amount ∈ CumulativeBucket.occupancy last buckets, key? amount.1 = some bucket →
      lt 0 amount.2 = true := by
  -- The last count kept stays equal to the count of the line before, kept or dropped.
  induction run generalizing last previous buckets with
  | nil =>
    cases hbuckets
    simp [CumulativeBucket.occupancy]
  | cons sample rest ih =>
    obtain ⟨hfirst, hrest⟩ := List.forall_mem_cons.mp hfinite
    obtain ⟨hrise, hlater⟩ : (sample.bucket? = some bucket → le previous sample.value = true) ∧
        RisesOn bucket sample.value rest := List.forall_mem_cons.mp hrises
    have hzero := sub_equals_zero_iff hfirst hlast
    by_cases hrepeats : (sample.value - last).equals 0 = true
    · rw [kept_cons_of_repeats hrepeats] at hbuckets
      exact ih hlast (equals_iff.mp (hzero.mp hrepeats)).1.symm hrest hlater hbuckets
    · obtain ⟨value, later, hvalue, hmapped, heq⟩ := occupancy_kept_cons hrepeats hbuckets
      rw [heq, List.forall_mem_cons]
      refine ⟨fun hbucket => ?_, ih hfirst rfl hrest hlater hmapped⟩
      have hle := hrise (hvalue.symm.trans hbucket)
      rw [le, ← hsame] at hle
      exact zero_lt_sub hfirst hlast (lt_of_le_of_not_equals hle (hzero.not.mp hrepeats))

end Run

namespace Exposition

/-- Every histogram that is emitted, also before a failure, is rebuilt from a run on the page, and a
bucket on which no line of such a run falls below the line before it has a positive count. -/
theorem positive_of_risesOn {filter : SampleFilter} {lines : List Text} {record : Record}
    (hmem : record ∈ (read lines filter).records) {counts : BucketCounts}
    (hvalue : record.value = .histogram counts) :
    (Page.ofTexts lines).Rebuilds filter record ∧
      ∀ name run, Run.rebuilt? name run = some record →
        (∀ sample ∈ run, sample.value.isFinite = true) →
        ∀ entry ∈ counts.entries, Run.RisesOn entry.1 0 run → lt 0 entry.2 = true := by
  refine ⟨rebuilds_of_mem_read hmem hvalue, fun name run hrebuilt hfinite entry hentry hrises => ?_⟩
  obtain ⟨buckets, hbuckets, hadded⟩ := Run.exists_addAll_of_rebuilt? hrebuilt hvalue
  obtain ⟨hkey, hcount⟩ := get?_of_mem hentry
  have hzero : (0 : Binary64).isFinite = true := isInt_zero.isFinite (by decide)
  have hamounts := Run.zero_lt_of_mem_occupancy hzero rfl hfinite hrises hbuckets
  exact zero_lt_of_addAll (fun _ hnone => by cases hnone) (hkey.symm ▸ hamounts) hadded _ hcount

/-- A page with a count that falls and rises again, once within a bucket and once across two. -/
def fallingPage : List Text :=
  ["# TYPE wait histogram".toList,
    "wait_bucket\x7ble=\"2\"\x7d 5".toList,
    "wait_bucket\x7ble=\"3.5\"\x7d 3".toList,
    "wait_bucket\x7ble=\"3.6\"\x7d 5".toList,
    "wait_bucket\x7ble=\"8\"\x7d 4".toList,
    "wait_bucket\x7ble=\"9\"\x7d 9".toList]

def fallingCounts : BucketCounts :=
  .ofPairs [(1, 5), (5 / 2, 0), (7, -1), (8, 5)]

theorem mem_read_fallingPage :
    .histogram "wait" fallingCounts ∈ (read fallingPage {}).records := by
  decide +kernel

theorem positive_of_risesOn_fallingPage :
    .histogram "wait" fallingCounts ∈ (read fallingPage {}).records ∧
    ∃ block ∈ (Page.ofTexts fallingPage).blocks, ∃ run ∈ block.runs {},
      (∀ sample ∈ run, sample.value.isFinite = true) ∧
      Run.RisesOn 8 0 run ∧ ¬ Run.RisesOn (5 / 2) 0 run ∧ (8, 5) ∈ fallingCounts.entries ∧
      lt 0 5 = true := by
  have hmem := mem_read_fallingPage
  have hruns : ∀ block ∈ (Page.ofTexts fallingPage).blocks, ∀ run ∈ block.runs {},
      (∀ sample ∈ run, sample.value.isFinite = true) ∧
      Run.RisesOn 8 0 run ∧ ¬ Run.RisesOn (5 / 2) 0 run := by decide +kernel
  have hentry : (8, 5) ∈ fallingCounts.entries := by decide +kernel
  obtain ⟨⟨block, hblock, -, run, hrun, hrebuilt⟩, hpositive⟩ := positive_of_risesOn hmem rfl
  obtain ⟨hfinite, hrises, hfalls⟩ := hruns block hblock run hrun
  exact ⟨hmem, block, hblock, run, hrun, hfinite, hrises, hfalls, hentry,
    hpositive _ _ hrebuilt hfinite _ hentry hrises⟩

/-- Finite counts can leave a bucket with zero and another one with a negative count. -/
theorem counts_not_positive_of_fallingPage :
    (Page.ofTexts fallingPage).FiniteCounts {} ∧
    ∃ record ∈ (read fallingPage {}).records, ∃ counts, record.value = .histogram counts ∧
      counts.get? (5 / 2) = some 0 ∧ counts.get? 7 = some (-1) := by
  refine ⟨?finite, _, mem_read_fallingPage, fallingCounts, rfl, ?zero, ?negative⟩
  all_goals decide +kernel

end Exposition

end ExporterAudit
