import ExporterAudit.Proofs.Exposition.Advancing
import ExporterAudit.Proofs.Success

/-!
What the reader collects between two bucket lines of a histogram. From a bucket line on its series
is the one collected, and the lines up to the next bucket line or header leave it as it is.
-/

namespace ExporterAudit.Exposition

/-! ### Reading up to a line -/

/-- The state that lines lead to if each is accepted, and the records completed on the way. -/
def stepAll (filter : SampleFilter) (state : State) : (lines : List Text) → Except Failure Transition
  | [] => .ok { state }
  | raw :: rest => do
    let first ← step filter state raw
    let others ← stepAll filter first.state rest
    return { others with emitted := first.emitted ++ others.emitted }

theorem stepAll_cons_eq_ok {filter : SampleFilter} {state : State} {raw : Text} {rest : List Text}
    {reached : Transition} (hreached : stepAll filter state (raw :: rest) = .ok reached) :
    ∃ first others, step filter state raw = .ok first ∧
      stepAll filter first.state rest = .ok others ∧
      reached = ⟨others.state, first.emitted ++ others.emitted⟩ := by
  obtain ⟨first, hfirst, hrest⟩ := bind_eq_ok_iff.mp hreached
  obtain ⟨others, hothers, hboth⟩ := bind_eq_ok_iff.mp hrest
  cases hboth
  exact ⟨first, others, hfirst, hothers, rfl⟩

theorem after_after (first second : List Record) (outcome : Outcome) :
    Outcome.after first (Outcome.after second outcome) = .after (first ++ second) outcome := by
  simp [Outcome.after]

/-- Lines that are accepted come before the outcome of those behind them. -/
theorem readFrom_append {filter : SampleFilter} {lines : List Text} {state : State}
    {reached : Transition} (hreached : stepAll filter state lines = .ok reached) (later : List Text) :
    readFrom filter state (lines ++ later) =
      .after reached.emitted (readFrom filter reached.state later) := by
  induction lines generalizing state reached with
  | nil =>
    cases hreached
    simp [Outcome.after]
  | cons raw rest ih =>
    obtain ⟨first, others, hfirst, hothers, rfl⟩ := stepAll_cons_eq_ok hreached
    rw [List.cons_append, readFrom, hfirst]
    simp only [ih hothers, after_after]

/-- A line that is refused ends the reading, and the records before it stay. -/
theorem read_of_refused {filter : SampleFilter} {before : List Text} {reached : Transition} {raw : Text}
    {failure : Failure} (hreached : stepAll filter .initial before = .ok reached)
    (hrefused : step filter reached.state raw = .error failure) (later : List Text) :
    read (before ++ raw :: later) filter = ⟨reached.emitted, some failure⟩ := by
  rw [read, readFrom_append hreached, readFrom, hrefused]
  simp [Outcome.after]

/-! ### The series that is collected -/

/-- A line that counts as a bucket line of a histogram. -/
structure IsBucketLine (filter : SampleFilter) (name raw : Text) (sample : Sample) : Prop where
  read : Line.read raw = .ok (.sample sample)
  accepted : filter.accepts sample = true
  bucket : sample.IsBucketOf name

/-- Whether a line is no header and does not count as a bucket line of a histogram. -/
def isAside (filter : SampleFilter) (name raw : Text) : Bool :=
  match Line.read raw with
  | .ok (.type _ _) => false
  | .ok (.sample sample) => !(filter.accepts sample && decide (sample.IsBucketOf name))
  | _ => true

/-- Inside a histogram, with a bucket line of a series collected and none of another since. -/
structure Accumulator.IsAt (accumulator : Accumulator) (name series : Text) : Prop where
  name : accumulator.name = name
  series : accumulator.series = some series
  touched : accumulator.touched = true

/-- Adding a line sets the series to its own. -/
theorem Accumulator.isAt_of_add {accumulator next : Accumulator} {sample : Sample} {raw : Text}
    (hadd : accumulator.add sample raw = .ok next) : next.IsAt accumulator.name (seriesKey sample) := by
  unfold Accumulator.add at hadd
  split at hadd
  · cases hadd
    exact ⟨rfl, rfl, rfl⟩
  · obtain ⟨bound, -, hnext⟩ := bind_eq_ok_iff.mp hadd
    cases hnext
    exact ⟨rfl, rfl, rfl⟩

theorem step_bucketLine {filter : SampleFilter} {accumulator : Accumulator} {raw : Text}
    {sample : Sample} (hline : IsBucketLine filter accumulator.name raw sample) :
    step filter (.collecting .histogram accumulator) raw =
      addBucket .histogram accumulator sample raw := by
  have hbucket : sample.name = accumulator.name ++ "_bucket" := hline.bucket
  rw [step, hline.read]
  change advance _ (.sample sample) raw filter = _
  rw [advance, if_pos hline.accepted, acceptSample, if_pos hbucket]

/-- A bucket line that is not refused is collected with those before it, or starts anew after what they
complete. -/
theorem addBucket_cases {type : CollectedType} {accumulator : Accumulator} {sample : Sample}
    {raw : Text} {transition : Transition}
    (hadd : addBucket type accumulator sample raw = .ok transition) :
    (accumulator.series.all (· == seriesKey sample) = true ∧
      ∃ next, accumulator.add sample raw = .ok next ∧ transition = ⟨.collecting type next, []⟩) ∨
    (¬ accumulator.series.all (· == seriesKey sample) = true ∧
      ∃ emitted next, flush (.collecting type accumulator) = .ok emitted ∧
        Accumulator.add { name := accumulator.name } sample raw = .ok next ∧
        transition = ⟨.collecting type next, emitted⟩) := by
  by_cases hcontinues : accumulator.series.all (· == seriesKey sample) = true
  · rw [addBucket_of_continues hcontinues] at hadd
    obtain ⟨next, hnext, rfl⟩ := map_eq_ok_iff.mp hadd
    exact .inl ⟨hcontinues, next, hnext, rfl⟩
  · rw [addBucket_of_ends hcontinues] at hadd
    obtain ⟨emitted, hflush, hstarted⟩ := bind_eq_ok_iff.mp hadd
    obtain ⟨next, hnext, rfl⟩ := map_eq_ok_iff.mp hstarted
    exact .inr ⟨hcontinues, emitted, next, hflush, hnext, rfl⟩

/-- After a bucket line its series is the one collected. -/
theorem isAt_of_addBucket {accumulator : Accumulator} {sample : Sample} {raw : Text}
    {transition : Transition} (hadd : addBucket .histogram accumulator sample raw = .ok transition) :
    ∃ collected, transition.state = .collecting .histogram collected ∧
      collected.IsAt accumulator.name (seriesKey sample) := by
  rcases addBucket_cases hadd with ⟨-, next, hnext, rfl⟩ | ⟨-, emitted, next, -, hnext, rfl⟩
  · exact ⟨next, rfl, Accumulator.isAt_of_add hnext⟩
  · have hat := Accumulator.isAt_of_add hnext
    exact ⟨next, rfl, hat⟩

/-- Lines between bucket lines emit nothing and leave the series as it is. -/
theorem step_aside {filter : SampleFilter} {accumulator : Accumulator} {name series raw : Text}
    {transition : Transition} (hat : accumulator.IsAt name series) (haside : isAside filter name raw = true)
    (hstep : step filter (.collecting .histogram accumulator) raw = .ok transition) :
    transition.emitted = [] ∧ ∃ collected, transition.state = .collecting .histogram collected ∧
      collected.IsAt name series := by
  obtain ⟨line, hread, hadvance⟩ := bind_eq_ok_iff.mp hstep
  rw [isAside, hread] at haside
  cases line with
  | blank | comment | help =>
    cases hadvance
    exact ⟨rfl, accumulator, rfl, hat⟩
  | type next declared => cases haside
  | sample sample =>
    rw [advance] at hadvance
    split at hadvance
    · next haccepts =>
      have hbucket : ¬ sample.name = accumulator.name ++ "_bucket" := by
        simp only [haccepts, Bool.true_and, Bool.not_eq_true', decide_eq_false_iff_not] at haside
        exact hat.name ▸ haside
      -- A sum or a count is kept; a line of another name is refused.
      simp only [acceptSample, if_neg hbucket] at hadvance
      split at hadvance
      · cases hadvance
        exact ⟨rfl, _, rfl, hat.name, hat.series, hat.touched⟩
      · split at hadvance
        · cases hadvance
          exact ⟨rfl, _, rfl, hat.name, hat.series, hat.touched⟩
        · cases hadvance
    · cases hadvance
      exact ⟨rfl, accumulator, rfl, hat⟩

/-- Lines that are aside emit nothing and leave the series that is collected. -/
theorem stepAll_asides {filter : SampleFilter} {name series : Text} {between : List Text}
    (hbetween : ∀ raw ∈ between, isAside filter name raw = true) {accumulator : Accumulator}
    {reached : Transition} (hat : accumulator.IsAt name series)
    (hreached : stepAll filter (.collecting .histogram accumulator) between = .ok reached) :
    reached.emitted = [] ∧ ∃ collected, reached.state = .collecting .histogram collected ∧
      collected.IsAt name series := by
  -- No bucket line and no header is between, so what is collected stays at the series.
  induction between generalizing accumulator reached with
  | nil =>
    cases hreached
    exact ⟨rfl, accumulator, rfl, hat⟩
  | cons raw rest ih =>
    rw [List.forall_mem_cons] at hbetween
    obtain ⟨first, others, hfirst, hothers, rfl⟩ := stepAll_cons_eq_ok hreached
    obtain ⟨hnothing, passed, hstate, hpassed⟩ := step_aside hat hbetween.1 hfirst
    rw [hstate] at hothers
    obtain ⟨hnone, hcollected⟩ := ih hbetween.2 hpassed hothers
    exact ⟨by simp [hnothing, hnone], hcollected⟩

/-- A bucket line is collected with those before it, or ends their record, as its key says. -/
theorem step_bucketLine_of_isAt {filter : SampleFilter} {accumulator : Accumulator}
    {name series raw : Text} {sample : Sample} (hat : accumulator.IsAt name series)
    (hline : IsBucketLine filter name raw sample) :
    step filter (.collecting .histogram accumulator) raw =
      if series = seriesKey sample then
        (accumulator.add sample raw).map fun next => ⟨.collecting .histogram next, []⟩
      else
        (Record.ofCumulative name accumulator.buckets).bind fun record =>
          (Accumulator.add { name } sample raw).map fun next =>
            ⟨.collecting .histogram next, [record]⟩ := by
  obtain ⟨rfl, hseries, htouched⟩ := hat
  rw [step_bucketLine hline]
  split
  · next hsame => exact addBucket_of_continues (by simp [hseries, hsame]) .histogram raw
  · next hdiffers =>
    rw [addBucket_of_ends (by simpa [hseries] using hdiffers)]
    obtain ⟨name, series, buckets, sum, count, touched⟩ := accumulator
    cases htouched
    simp only [flush]
    cases Record.ofCumulative name buckets <;> rfl

end ExporterAudit.Exposition
