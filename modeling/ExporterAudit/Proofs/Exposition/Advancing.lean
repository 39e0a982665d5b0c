import ExporterAudit.Proofs.Exposition.Collecting

/-!
What one accepted sample does to the reader, seen from the page as a whole: it is emitted, or joins
the run that the state stands for, or can never be part of a readable page.
-/

namespace ExporterAudit.Exposition

/-- What the reader's state knows about the samples read since the last header or record. -/
inductive Follows : State → (name : Text) → (type : MetricType) → List Sample → Prop
  | idle {declared : Option MetricType} {name : Text} {type : MetricType}
      (hhistogram : type ≠ .histogram) (hsummary : type ≠ .summary) :
      Follows (.idle declared) name type []
  | summary {accumulator : Accumulator} (huntouched : accumulator.touched = false) :
      Follows (.collecting .summary accumulator) accumulator.name .summary []
  | histogram {accumulator : Accumulator} {run : List Sample} (hcollects : accumulator.Collects run) :
      Follows (.collecting .histogram accumulator) accumulator.name .histogram run

/-- A header starts with an empty run of its own. -/
theorem follows_ofHeader (name : Text) (type : MetricType) :
    Follows (State.ofHeader name type) name type [] := by
  cases type with
  | histogram => exact .histogram (collects_fresh name)
  | summary => exact .summary rfl
  | counter => exact .idle (by decide) (by decide)
  | gauge => exact .idle (by decide) (by decide)
  | untyped => exact .idle (by decide) (by decide)

theorem Follows.toOption_flush {state : State} {name : Text} {type : MetricType} {run : List Sample}
    (hfollows : Follows state name type run) :
    (flush state).toOption = Block.recordsOf? name type run := by
  cases hfollows with
  | idle hhistogram hsummary =>
    rw [Block.recordsOf?_of_scalar hhistogram hsummary]
    rfl
  | @summary accumulator huntouched =>
    obtain ⟨name, series, buckets, sum, count, touched⟩ := accumulator
    cases huntouched
    rfl
  | histogram hcollects => exact Exposition.toOption_flush hcollects

/-- What one accepted sample does, seen from the page: it is emitted, or moves into the run that
the state stands for, or can never be part of a readable page. -/
def Advances (result : Except Failure Transition) (name : Text) (type : MetricType)
    (run : List Sample) (sample : Sample) : Prop :=
  match result with
  | .ok transition => ∃ next, Follows transition.state name type next ∧
      ∀ later, Block.recordsOf? name type (run ++ sample :: later) =
        (Block.recordsOf? name type (next ++ later)).map (transition.emitted ++ ·)
  | .error _ => ∀ later, Block.recordsOf? name type (run ++ sample :: later) = none

/-- A bucket line of the series being collected moves into its run. -/
theorem add_advances {accumulator : Accumulator} {run : List Sample}
    (hcollects : accumulator.Collects run) {sample : Sample}
    (hbucket : sample.IsBucketOf accumulator.name) (hfinite : sample.value.isFinite = true)
    (hsame : ∀ other ∈ run, seriesKey other = seriesKey sample) (raw : Text) :
    Advances ((accumulator.add sample raw).map fun next => ⟨.collecting .histogram next, []⟩)
      accumulator.name .histogram run sample := by
  rcases hcollects.add hbucket hfinite hsame raw with
    ⟨next, hadd, hname, hnext⟩ | ⟨failure, hadd, hnone⟩
  · rw [hadd]
    exact ⟨run ++ [sample], hname ▸ .histogram hnext, by simp⟩
  · rw [hadd]
    intro later
    have hnamed : ∀ other ∈ run ++ [sample], other.IsBucketOf accumulator.name := by
      simpa [or_imp, forall_and] using ⟨hcollects.named, hbucket⟩
    have hseries : ∀ other ∈ run ++ [sample], seriesKey other = seriesKey sample := by
      simpa [or_imp, forall_and] using hsame
    have hall := Block.recordsOf?_append_eq_none hnamed hseries (by simp) hnone later
    simpa using hall

theorem addBucket_of_continues {accumulator : Accumulator} {sample : Sample}
    (hcontinues : accumulator.series.all (· == seriesKey sample) = true) (type : CollectedType)
    (raw : Text) : addBucket type accumulator sample raw =
      (accumulator.add sample raw).map fun next => ⟨.collecting type next, []⟩ := by
  simp only [addBucket, hcontinues, ↓reduceIte, bind, Except.bind]
  cases accumulator.add sample raw <;> rfl

/-- A line of another series emits the record of the one before and starts a new one. -/
theorem addBucket_of_ends {accumulator : Accumulator} {sample : Sample}
    (hends : ¬ accumulator.series.all (· == seriesKey sample) = true) (type : CollectedType)
    (raw : Text) : addBucket type accumulator sample raw =
      (flush (.collecting type accumulator)).bind fun emitted =>
        (Accumulator.add { name := accumulator.name } sample raw).map fun next =>
          ⟨.collecting type next, emitted⟩ := by
  simp only [addBucket, hends, Bool.false_eq_true, ↓reduceIte, bind]
  cases flush (.collecting type accumulator) with
  | error failure => rfl
  | ok emitted =>
    simp only [Except.bind]
    cases Accumulator.add { name := accumulator.name } sample raw <;> rfl

/-- A bucket line of another series emits the run and starts a new one. -/
theorem addBucket_advances_of_ends {accumulator : Accumulator} {run : List Sample}
    (hcollects : accumulator.Collects run) {series : Text} (hseries : accumulator.series = some series)
    {sample : Sample} (hbucket : sample.IsBucketOf accumulator.name)
    (hfinite : sample.value.isFinite = true) (hother : seriesKey sample ≠ series) (raw : Text) :
    Advances (addBucket .histogram accumulator sample raw) accumulator.name .histogram run sample := by
  have hnonempty : run ≠ [] := by
    intro hempty
    have hfresh := hcollects.fresh hempty
    rw [hfresh] at hseries
    cases hseries
  have hrun : ∀ other ∈ run, seriesKey other = series := fun other hmem =>
    Option.some.inj ((hcollects.series other hmem).symm.trans hseries)
  have hends := Block.recordsOf?_append_cons_of_ends hcollects.named hrun hnonempty hbucket hother
  have hflushed := toOption_flush hcollects
  rw [Block.recordsOf?_of_run hcollects.named hrun hnonempty] at hflushed
  have hadvances := add_advances (collects_fresh accumulator.name) hbucket hfinite (by simp) raw
  rw [addBucket_of_ends (by simpa [hseries] using hother.symm)]
  cases hflush : flush (.collecting .histogram accumulator) with
  | error failure =>
    rw [hflush] at hflushed
    intro later
    rw [hends, Option.map_eq_none_iff.mp hflushed.symm]
    rfl
  | ok emitted =>
    rw [hflush] at hflushed
    obtain ⟨record, hrecord, rfl⟩ := Option.map_eq_some_iff.mp hflushed.symm
    cases hadd : Accumulator.add { name := accumulator.name } sample raw with
    | error failure =>
      rw [hadd] at hadvances
      intro later
      have hnone := hadvances later
      rw [List.nil_append] at hnone
      rw [hends, hrecord, hnone]
      rfl
    | ok next =>
      rw [hadd] at hadvances
      obtain ⟨started, hfollows, hmoves⟩ := hadvances
      refine ⟨started, hfollows, fun later => ?_⟩
      have hmove := hmoves later
      rw [List.nil_append] at hmove
      rw [hends, hrecord, hmove]
      cases Block.recordsOf? accumulator.name .histogram (started ++ later) <;> rfl

/-- Whether a bucket line goes on with the run or ends it, the state stands for the run so far. -/
theorem addBucket_advances {accumulator : Accumulator} {run : List Sample}
    (hcollects : accumulator.Collects run) {sample : Sample}
    (hbucket : sample.IsBucketOf accumulator.name) (hfinite : sample.value.isFinite = true)
    (raw : Text) :
    Advances (addBucket .histogram accumulator sample raw) accumulator.name .histogram run sample := by
  cases hseries : accumulator.series with
  | none =>
    have hempty : ∀ other ∈ run, seriesKey other = seriesKey sample := by
      intro other hmem
      have hother := hcollects.series other hmem
      rw [hseries] at hother
      cases hother
    rw [addBucket_of_continues (by simp [hseries])]
    exact add_advances hcollects hbucket hfinite hempty raw
  | some series =>
    by_cases hsame : seriesKey sample = series
    · have hrun : ∀ other ∈ run, seriesKey other = seriesKey sample := fun other hmem =>
        Option.some.inj ((hcollects.series other hmem).symm.trans (hsame ▸ hseries))
      rw [addBucket_of_continues (by simp [hseries, hsame])]
      exact add_advances hcollects hbucket hfinite hrun raw
    · exact addBucket_advances_of_ends hcollects hseries hbucket hfinite hsame raw

/-- Every accepted sample advances the reader along the page. -/
theorem acceptSample_advances {state : State} {name : Text} {type : MetricType} {run : List Sample}
    (hfollows : Follows state name type run) {sample : Sample}
    (hfinite : type = .histogram → sample.IsBucketOf name → sample.value.isFinite = true)
    (raw : Text) : Advances (acceptSample state sample raw) name type run sample := by
  cases hfollows with
  | idle hhistogram hsummary =>
    refine ⟨[], .idle hhistogram hsummary, fun later => ?_⟩
    simp only [Block.recordsOf?_of_scalar hhistogram hsummary]
    rfl
  | summary huntouched =>
    intro later
    rfl
  | @histogram accumulator _ hcollects =>
    unfold acceptSample
    by_cases hbucket : sample.IsBucketOf accumulator.name
    · simp only [if_pos (show sample.name = accumulator.name ++ "_bucket" from hbucket)]
      exact addBucket_advances hcollects hbucket (hfinite rfl hbucket) raw
    · simp only [if_neg (show ¬ sample.name = accumulator.name ++ "_bucket" from hbucket)]
      by_cases hsum : sample.name = accumulator.name ++ "_sum"
      · simp only [if_pos hsum]
        exact ⟨run, .histogram (hcollects.withTotals sample.value accumulator.count), fun later => by
          simp [Block.recordsOf?_append_cons (.inr (.inl hsum)) hbucket]⟩
      · simp only [if_neg hsum]
        by_cases hcount : sample.name = accumulator.name ++ "_count"
        · simp only [if_pos hcount]
          exact ⟨run, .histogram (hcollects.withTotals accumulator.sum sample.value), fun later => by
            simp [Block.recordsOf?_append_cons (.inr (.inr hcount)) hbucket]⟩
        · simp only [if_neg hcount]
          intro later
          have hforeign : ¬ sample.IsComponentOf accumulator.name := by
            rintro (h | h | h) <;> contradiction
          exact Block.recordsOf?_eq_none_of_not_component (by simp) hforeign

end ExporterAudit.Exposition
