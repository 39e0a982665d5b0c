import ExporterAudit.Proofs.Exposition.Stepping

/-!
What a line does, by what it is. Below the header of a histogram an accepted sample is a bucket line,
a reported sum or count, or refused; what such a line emits are histograms of the declared name.
-/

namespace ExporterAudit

namespace Sample

/-- A line that reports the sum or the count of a histogram. -/
def IsTotalOf (name : Text) (sample : Sample) : Prop :=
  sample.name = name ++ "_sum" ∨ sample.name = name ++ "_count"

instance (name : Text) (sample : Sample) : Decidable (sample.IsTotalOf name) :=
  inferInstanceAs (Decidable (_ ∨ _))

/-- The names of components end differently. -/
theorem IsTotalOf.not_isBucketOf {name : Text} {sample : Sample} (htotal : sample.IsTotalOf name) :
    ¬ sample.IsBucketOf name := by
  intro hbucket
  rcases htotal with hsum | hcount
  · exact absurd (List.append_cancel_left (hbucket.symm.trans hsum)) (by decide)
  · exact absurd (List.append_cancel_left (hbucket.symm.trans hcount)) (by decide)

end Sample

namespace Exposition

theorem step_of_read {raw : Text} {line : Line} (hread : Line.read raw = .ok line)
    (filter : SampleFilter) (state : State) :
    step filter state raw = advance state line raw filter := by
  rw [step, hread]
  rfl

/-- A header emits what was collected and starts anew. -/
theorem step_header {raw name : Text} {type : MetricType}
    (hread : Line.read raw = .ok (.type name type)) (filter : SampleFilter) (state : State) :
    step filter state raw =
      (flush state).map fun emitted => { state := State.ofHeader name type, emitted } := by
  rw [step_of_read hread, advance]
  cases flush state <;> rfl

theorem step_of_accepts {raw : Text} {sample : Sample} (hread : Line.read raw = .ok (.sample sample))
    {filter : SampleFilter} (haccepts : filter.accepts sample = true) (state : State) :
    step filter state raw = acceptSample state sample raw := by
  rw [step_of_read hread, advance, if_pos haccepts]

theorem step_of_not_accepts {raw : Text} {sample : Sample}
    (hread : Line.read raw = .ok (.sample sample)) {filter : SampleFilter}
    (hrejects : ¬ filter.accepts sample = true) (state : State) :
    step filter state raw = .ok { state } := by
  rw [step_of_read hread, advance, if_neg hrejects]

/-! ### Samples below the header of a histogram -/

theorem acceptSample_bucket {accumulator : Accumulator} {sample : Sample}
    (hbucket : sample.IsBucketOf accumulator.name) (raw : Text) :
    acceptSample (.collecting .histogram accumulator) sample raw =
      addBucket .histogram accumulator sample raw :=
  if_pos hbucket

/-- A reported sum or count is kept and does nothing else. -/
theorem acceptSample_total {accumulator : Accumulator} {sample : Sample}
    (htotal : sample.IsTotalOf accumulator.name) (raw : Text) :
    ∃ sum count, acceptSample (.collecting .histogram accumulator) sample raw =
      .ok { state := .collecting .histogram { accumulator with sum, count } } := by
  have hbucket : ¬ sample.name = accumulator.name ++ "_bucket" := htotal.not_isBucketOf
  by_cases hsum : sample.name = accumulator.name ++ "_sum"
  · refine ⟨sample.value, accumulator.count, ?_⟩
    rw [acceptSample, if_neg hbucket, if_pos hsum]
  · refine ⟨accumulator.sum, sample.value, ?_⟩
    rw [acceptSample, if_neg hbucket, if_neg hsum, if_pos (htotal.resolve_left hsum)]

/-- Below the header of a histogram every sample has to be one of its components. -/
theorem acceptSample_foreign {accumulator : Accumulator} {sample : Sample}
    (hforeign : ¬ sample.IsComponentOf accumulator.name) (raw : Text) :
    acceptSample (.collecting .histogram accumulator) sample raw =
      .error (.unknownHistogramComponent accumulator.name raw) := by
  obtain ⟨hbucket, hsum, hcount⟩ : ¬ sample.name = accumulator.name ++ "_bucket" ∧
      ¬ sample.name = accumulator.name ++ "_sum" ∧ ¬ sample.name = accumulator.name ++ "_count" := by
    simpa [Sample.IsComponentOf, Sample.IsBucketOf] using hforeign
  rw [acceptSample, if_neg hbucket, if_neg hsum, if_neg hcount]

/-- A sample that is not refused is a bucket line, or a sum or a count. -/
theorem acceptSample_eq_ok {accumulator : Accumulator} {sample : Sample} {raw : Text}
    {transition : Transition}
    (haccept : acceptSample (.collecting .histogram accumulator) sample raw = .ok transition) :
    (sample.IsBucketOf accumulator.name ∧
      addBucket .histogram accumulator sample raw = .ok transition) ∨
    (sample.IsTotalOf accumulator.name ∧ ∃ sum count,
      transition = { state := .collecting .histogram { accumulator with sum, count } }) := by
  by_cases hbucket : sample.IsBucketOf accumulator.name
  · rw [acceptSample_bucket hbucket] at haccept
    exact .inl ⟨hbucket, haccept⟩
  · by_cases htotal : sample.IsTotalOf accumulator.name
    · obtain ⟨sum, count, hkept⟩ := acceptSample_total htotal raw
      cases hkept.symm.trans haccept
      exact .inr ⟨htotal, sum, count, rfl⟩
    · rw [acceptSample_foreign (by rintro (h | h) <;> contradiction)] at haccept
      cases haccept

/-- A reported sum or count only changes what is kept of the totals. -/
theorem step_total {raw : Text} {sample : Sample} (hread : Line.read raw = .ok (.sample sample))
    {accumulator : Accumulator} (htotal : sample.IsTotalOf accumulator.name)
    (filter : SampleFilter) :
    ∃ sum count, step filter (.collecting .histogram accumulator) raw =
      .ok { state := .collecting .histogram { accumulator with sum, count } } := by
  by_cases haccepts : filter.accepts sample = true
  · rw [step_of_accepts hread haccepts]
    exact acceptSample_total htotal raw
  · exact ⟨accumulator.sum, accumulator.count, step_of_not_accepts hread haccepts _⟩

/-! ### What is emitted -/

/-- What is emitted at the end of a run is one histogram of the declared name. -/
theorem exists_histogram_of_mem_flush {state : State} {emitted : List Record}
    (hflush : flush state = .ok emitted) {record : Record} (hmem : record ∈ emitted) :
    ∃ type accumulator counts, state = .collecting type accumulator ∧
      record = .histogram accumulator.name counts := by
  cases state with
  | idle declared =>
    cases hflush
    cases hmem
  | collecting type accumulator =>
    obtain ⟨name, series, buckets, sum, count, touched⟩ := accumulator
    cases touched with
    | false =>
      cases hflush
      cases hmem
    | true =>
      obtain ⟨rebuilt, hrebuilt, hemitted⟩ := bind_eq_ok_iff.mp hflush
      cases hemitted
      obtain rfl := List.mem_singleton.mp hmem
      obtain ⟨counts, -, hrecord⟩ := bind_eq_ok_iff.mp hrebuilt
      cases hrecord
      exact ⟨type, _, counts, rfl, rfl⟩

/-- A bucket line goes on with the histogram, and what it completes goes by the same name. -/
theorem addBucket_eq_ok {type : CollectedType} {accumulator : Accumulator} {sample : Sample}
    {raw : Text} {transition : Transition}
    (hadd : addBucket type accumulator sample raw = .ok transition) :
    (∃ next, transition.state = .collecting type next ∧ next.name = accumulator.name) ∧
      ∀ record ∈ transition.emitted, ∃ counts, record = .histogram accumulator.name counts := by
  rcases addBucket_cases hadd with ⟨-, next, hnext, rfl⟩ | ⟨-, emitted, next, hflush, hnext, rfl⟩
  · exact ⟨⟨next, rfl, (Accumulator.isAt_of_add hnext).name⟩, by simp⟩
  · refine ⟨⟨next, rfl, (Accumulator.isAt_of_add hnext).name⟩, fun record hmem => ?_⟩
    obtain ⟨_, flushed, counts, hstate, hrecord⟩ := exists_histogram_of_mem_flush hflush hmem
    cases hstate
    exact ⟨counts, hrecord⟩

/-- A number is only ever emitted for the sample that reports it. -/
theorem scalar_of_mem_emitted {filter : SampleFilter} {state : State} {raw : Text}
    {transition : Transition} (hstep : step filter state raw = .ok transition) {record : Record}
    (hmem : record ∈ transition.emitted) {value : Binary64} (hvalue : record.value = .scalar value) :
    ∃ sample, Line.read raw = .ok (.sample sample) ∧ filter.accepts sample = true ∧
      record = sample.toRecord := by
  have hflushed {state : State} {emitted : List Record} (hflush : flush state = .ok emitted) :
      record ∉ emitted := by
    intro hmem
    obtain ⟨_, _, counts, -, rfl⟩ := exists_histogram_of_mem_flush hflush hmem
    cases hvalue
  obtain ⟨line, hread, hadvance⟩ := bind_eq_ok_iff.mp hstep
  cases line with
  | blank | comment | help =>
    cases hadvance
    cases hmem
  | type name type =>
    obtain ⟨emitted, hflush, hnext⟩ := bind_eq_ok_iff.mp hadvance
    cases hnext
    exact absurd hmem (hflushed hflush)
  | sample sample =>
    rw [advance] at hadvance
    split at hadvance
    · next haccepts =>
      cases state with
      | idle declared =>
        cases hadvance
        exact ⟨sample, hread, haccepts, List.mem_singleton.mp hmem⟩
      | collecting type accumulator =>
        cases type with
        | summary => cases hadvance
        | histogram =>
          rcases acceptSample_eq_ok hadvance with ⟨-, hadd⟩ | ⟨-, _, _, rfl⟩
          · obtain ⟨counts, rfl⟩ := (addBucket_eq_ok hadd).2 record hmem
            cases hvalue
          · cases hmem
    · cases hadvance
      cases hmem

end Exposition

end ExporterAudit
