import ExporterAudit.Proofs.Exposition.Stepping
import ExporterAudit.Proofs.Line.Parts
import ExporterAudit.Proofs.Line.Value

/-!
What becomes of lines whose numbers are no value tokens. A sample line with such a token, and a bucket
line that changes the count of its series and has such a bound, are refused as malformed, unless the text
is one of the loose ones that are read as numbers all the same.
-/

namespace ExporterAudit.Exposition

open Line

/-- The count that a bucket line goes on from: the last of its series, zero where it begins one. -/
def Accumulator.countBefore (accumulator : Accumulator) (sample : Sample) : Binary64 :=
  if accumulator.series.all (· == seriesKey sample) then accumulator.lastCount else 0

/-- The records that a bucket line completes: that of the series before it where it begins one. -/
def Accumulator.completed (accumulator : Accumulator) (sample : Sample) : Except Failure (List Record) :=
  if accumulator.series.all (· == seriesKey sample) then .ok [] else flush (.collecting .histogram accumulator)

/-- A bucket line whose count is not that of the line before, with nothing before it that cannot be
completed. -/
structure ChangesCount (filter : SampleFilter) (accumulator : Accumulator) (raw : Text) (sample : Sample) :
    Prop extends IsBucketLine filter accumulator.name raw sample where
  changes : (sample.value - accumulator.countBefore sample).equals 0 = false
  completes : ∃ completed, accumulator.completed sample = .ok completed

/-- A bound is only read where the count changes, and is refused there if it is no number. -/
theorem Accumulator.add_of_unreadableBound {accumulator : Accumulator} {sample : Sample} {written raw : Text}
    (hbound : sample.labels.get? boundLabel = some written) (hvalue : value? written = none)
    (hchanges : (sample.value - accumulator.lastCount).equals 0 = false) :
    accumulator.add sample raw = .error (.malformedLine raw ("invalid le '" ++ written ++ "'")) := by
  have hrefused : bound sample raw = .error (.malformedLine raw ("invalid le '" ++ written ++ "'")) := by
    rw [bound, hbound]
    simp only [hvalue]
  rw [Accumulator.add, if_neg (by simp [hchanges]), hrefused]
  rfl

/-- A bucket line without a readable bound is refused once the series before it is completed. -/
theorem addBucket_of_unreadableBound {accumulator : Accumulator} {sample : Sample} {written raw : Text}
    (hbound : sample.labels.get? boundLabel = some written) (hvalue : value? written = none)
    (hchanges : (sample.value - accumulator.countBefore sample).equals 0 = false) :
    addBucket .histogram accumulator sample raw =
      (accumulator.completed sample).bind fun _ =>
        .error (.malformedLine raw ("invalid le '" ++ written ++ "'")) := by
  by_cases hcontinues : accumulator.series.all (· == seriesKey sample) = true
  · rw [Accumulator.countBefore, if_pos hcontinues] at hchanges
    rw [addBucket_of_continues hcontinues, Accumulator.add_of_unreadableBound hbound hvalue hchanges,
      Accumulator.completed, if_pos hcontinues]
    rfl
  · rw [Accumulator.countBefore, if_neg hcontinues] at hchanges
    have hrefused : Accumulator.add { name := accumulator.name } sample raw = _ :=
      Accumulator.add_of_unreadableBound hbound hvalue hchanges
    rw [addBucket_of_ends hcontinues, hrefused, Accumulator.completed, if_neg hcontinues]
    rfl

/-- A line that changes the count is refused if its bound is no number. -/
theorem ChangesCount.step_eq {filter : SampleFilter} {accumulator : Accumulator} {sample : Sample}
    {written raw : Text} (hline : ChangesCount filter accumulator raw sample)
    (hbound : sample.labels.get? boundLabel = some written) (hvalue : value? written = none) :
    step filter (.collecting .histogram accumulator) raw =
      .error (.malformedLine raw ("invalid le '" ++ written ++ "'")) := by
  obtain ⟨completed, hcompleted⟩ := hline.completes
  rw [step_bucketLine hline.toIsBucketLine, addBucket_of_unreadableBound hbound hvalue hline.changes, hcompleted]
  rfl

/-- A value is read before the filter is asked, so an unreadable one fails in any state. -/
theorem step_of_hasToken {line token : Text} (hline : HasToken line token) (hvalue : value? token = none)
    (filter : SampleFilter) (state : State) :
    step filter state line = .error (.malformedLine line ("invalid value '" ++ token ++ "'")) := by
  obtain ⟨parts, hspells, rfl⟩ := hline
  rw [step, Line.read_of_spells hspells, hvalue]
  rfl

/-- The texts that are read as numbers are the value tokens and the loose texts, which are none. A sample
line with any other token and a bucket line that changes the count and has any other bound end the reading
as malformed, wherever they stand. -/
theorem number_iff_valueToken (text : Text) :
    ((value? text).isSome = true ↔ IsValueToken text ∨ IsLoose text) ∧ (IsLoose text → ¬ IsValueToken text) ∧
    (¬ IsValueToken text → ¬ IsLoose text →
      ∀ (filter : SampleFilter) (before later : List Text) (raw : Text) (reached : Transition),
        stepAll filter .initial before = .ok reached →
        (HasToken raw text → read (before ++ raw :: later) filter =
          ⟨reached.emitted, some (.malformedLine raw ("invalid value '" ++ text ++ "'"))⟩) ∧
        ∀ (accumulator : Accumulator) (sample : Sample), reached.state = .collecting .histogram accumulator →
          ChangesCount filter accumulator raw sample → sample.labels.get? boundLabel = some text →
          read (before ++ raw :: later) filter =
            ⟨reached.emitted, some (.malformedLine raw ("invalid le '" ++ text ++ "'"))⟩) := by
  refine ⟨value?_isSome_iff, IsLoose.not_isValueToken, ?_⟩
  intro htoken hloose filter before later raw reached hreached
  have hvalue : value? text = none := by
    rw [← Option.not_isSome_iff_eq_none, value?_isSome_iff]
    exact not_or.mpr ⟨htoken, hloose⟩
  constructor
  · intro hline
    exact read_of_refused hreached (step_of_hasToken hline hvalue filter reached.state) later
  · intro accumulator sample hstate hline hbound
    have hrefused := hline.step_eq hbound hvalue
    rw [← hstate] at hrefused
    exact read_of_refused hreached hrefused later

theorem number_iff_valueToken_openExponent :
    ¬ IsValueToken "1e" ∧ ¬ IsLoose "1e" ∧
    read ["# TYPE wait histogram".toList, "wait_sum 1e".toList] {} =
      ⟨[], some (.malformedLine "wait_sum 1e" "invalid value '1e'")⟩ ∧
    read ["# TYPE wait histogram".toList, "wait_bucket\x7ble=\"1e\"\x7d 2".toList] {} =
      ⟨[], some (.malformedLine "wait_bucket\x7ble=\"1e\"\x7d 2" "invalid le '1e'")⟩ := by
  have htoken : ¬ IsValueToken "1e" := by decide +kernel
  have hloose : ¬ IsLoose "1e" := by decide +kernel
  have hreached : stepAll {} .initial ["# TYPE wait histogram".toList] =
      .ok ⟨.collecting .histogram { name := "wait" }, []⟩ := toOption_eq_some_iff.mp (by decide +kernel)
  have hsum : HasToken "wait_sum 1e" "1e" :=
    ⟨⟨"wait_sum", none, "1e"⟩, sampleParts?_eq_some_iff.mp (by decide +kernel), rfl⟩
  have hbucket : ChangesCount {} { name := "wait" } "wait_bucket\x7ble=\"1e\"\x7d 2"
      ⟨"wait_bucket", Labels.ofPairs [("le", "1e")], 2⟩ := {
    read := toOption_eq_some_iff.mp (by decide +kernel)
    accepted := by decide +kernel
    bucket := by decide +kernel
    changes := by decide +kernel
    completes := ⟨[], rfl⟩ }
  obtain ⟨-, -, hrefused⟩ := number_iff_valueToken "1e"
  refine ⟨htoken, hloose, ?_, ?_⟩
  · exact (hrefused htoken hloose {} _ [] "wait_sum 1e" _ hreached).1 hsum
  · exact (hrefused htoken hloose {} _ [] _ _ hreached).2 _ _ rfl hbucket (by decide +kernel)

/-- Loose texts pass for numbers: a hexadecimal value of a sample, and a blank bound that is read as
zero. -/
theorem number_of_looseText :
    ((value? "0x10").isSome = true ∧ ¬ IsValueToken "0x10") ∧ ((value? " ").isSome = true ∧ ¬ IsValueToken " ") ∧
    HasToken "foo 0x10" "0x10" ∧ Line.read "foo 0x10" = .ok (.sample ⟨"foo", .empty, 16⟩) ∧
    ∃ sample, ChangesCount {} { name := "wait" } "wait_bucket\x7ble=\" \"\x7d 2" sample ∧
      sample.labels.get? boundLabel = some " ".toList ∧
      (step {} (.collecting .histogram { name := "wait" }) "wait_bucket\x7ble=\" \"\x7d 2").isOk = true := by
  have hblank : ChangesCount {} { name := "wait" } "wait_bucket\x7ble=\" \"\x7d 2"
      ⟨"wait_bucket", Labels.ofPairs [("le", " ")], 2⟩ := {
    read := toOption_eq_some_iff.mp (by decide +kernel)
    accepted := by decide +kernel
    bucket := by decide +kernel
    changes := by decide +kernel
    completes := ⟨[], rfl⟩ }
  have hhex : HasToken "foo 0x10" "0x10" :=
    ⟨⟨"foo", none, "0x10"⟩, sampleParts?_eq_some_iff.mp (by decide +kernel), rfl⟩
  exact ⟨by decide +kernel, by decide +kernel, hhex, toOption_eq_some_iff.mp (by decide +kernel), _, hblank,
    by decide +kernel, by decide +kernel⟩

end ExporterAudit.Exposition
