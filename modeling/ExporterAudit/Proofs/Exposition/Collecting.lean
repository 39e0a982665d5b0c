import ExporterAudit.Proofs.Exposition.Runs

/-!
What the accumulator of a histogram holds. It stands for the run of bucket lines since the last
record: its buckets are those of the run, and its last count equals the count of the run's last
line, kept or dropped.
-/

namespace ExporterAudit.Exposition

/-- A bound that is missing and one that cannot be read count alike here. -/
theorem toOption_bound (sample : Sample) (raw : Text) :
    (bound sample raw).toOption = sample.bound? := by
  unfold bound Sample.bound?
  cases sample.labels.get? boundLabel with
  | none => rfl
  | some written =>
    simp only [Option.bind_some]
    cases Line.value? written <;> rfl

/-- An accumulator stands for a run of bucket lines. -/
structure Accumulator.Collects (accumulator : Accumulator) (run : List Sample) : Prop where
  named : ∀ sample ∈ run, sample.IsBucketOf accumulator.name
  series : ∀ sample ∈ run, accumulator.series = some (seriesKey sample)
  fresh : run = [] → accumulator.series = none
  touched : accumulator.touched = !run.isEmpty
  buckets : Run.buckets? run = some accumulator.buckets
  /-- The last count kept equals the last count seen. -/
  lastCount : accumulator.lastCount.equals (Run.lastValue 0 run) = true
  finite : accumulator.lastCount.isFinite = true

theorem collects_fresh (name : Text) : Accumulator.Collects { name } [] where
  named := by simp
  series := by simp
  fresh := fun _ => rfl
  touched := rfl
  buckets := rfl
  lastCount := Binary64.isInt_zero.equals_iff Binary64.isInt_zero |>.mpr rfl
  finite := Binary64.isInt_zero.isFinite (by decide)

/-- The reported sum and count are no part of what is collected. -/
theorem Accumulator.Collects.withTotals {accumulator : Accumulator} {run : List Sample}
    (hcollects : accumulator.Collects run) (sum count : Binary64) :
    Accumulator.Collects { accumulator with sum, count } run where
  named := hcollects.named
  series := hcollects.series
  fresh := hcollects.fresh
  touched := hcollects.touched
  buckets := hcollects.buckets
  lastCount := hcollects.lastCount
  finite := hcollects.finite

/-- A bucket line of the series being collected prolongs the run, unless it lacks a bound that it
needs. -/
theorem Accumulator.Collects.add {accumulator : Accumulator} {run : List Sample}
    (hcollects : accumulator.Collects run) {sample : Sample}
    (hbucket : sample.IsBucketOf accumulator.name) (hfinite : sample.value.isFinite = true)
    (hsame : ∀ other ∈ run, seriesKey other = seriesKey sample) (raw : Text) :
    (∃ next, accumulator.add sample raw = .ok next ∧ next.name = accumulator.name ∧
      next.Collects (run ++ [sample])) ∨
    (∃ failure, accumulator.add sample raw = .error failure ∧
      Run.buckets? (run ++ [sample]) = none) := by
  have hzero : (sample.value - accumulator.lastCount).equals 0 = true ↔
      sample.value.equals (Run.lastValue 0 run) = true := by
    rw [Binary64.sub_equals_zero_iff hfinite hcollects.finite]
    constructor
    · exact fun h => Binary64.equals_trans h hcollects.lastCount
    · exact fun h => Binary64.equals_trans h (Binary64.equals_comm _ _ ▸ hcollects.lastCount)
  have hbuckets := Run.buckets?_append run [sample]
  rw [hcollects.buckets] at hbuckets
  have hnamed : ∀ other ∈ run ++ [sample], other.IsBucketOf accumulator.name := by
    simpa [or_imp, forall_and] using ⟨hcollects.named, hbucket⟩
  have hseries : ∀ other ∈ run ++ [sample], some (seriesKey sample) = some (seriesKey other) := by
    simpa [or_imp, forall_and, eq_comm] using hsame
  have hlast := Run.lastValue_append_singleton 0 run sample
  unfold Accumulator.add
  by_cases hrepeats : sample.value.equals (Run.lastValue 0 run) = true
  · left
    refine ⟨_, if_pos (hzero.mpr hrepeats), rfl, ?_⟩
    exact {
      named := hnamed
      series := hseries
      fresh := by simp
      touched := by simp
      buckets := by simpa [Run.changes, hrepeats] using hbuckets
      lastCount := by
        rw [hlast]
        exact Binary64.equals_trans hcollects.lastCount (Binary64.equals_comm _ _ ▸ hrepeats)
      finite := hcollects.finite }
  · rw [if_neg (hzero.not.mpr hrepeats)]
    have hbound := toOption_bound sample raw
    simp only [Run.changes, hrepeats, Bool.false_eq_true, ↓reduceIte, List.mapM_cons, List.mapM_nil,
      Sample.toBucket?, ← hbound] at hbuckets
    cases hread : bound sample raw with
    | error failure =>
      rw [hread] at hbuckets
      exact .inr ⟨failure, rfl, hbuckets⟩
    | ok bound =>
      rw [hread] at hbuckets
      refine .inl ⟨_, rfl, rfl, ?_⟩
      exact {
        named := hnamed
        series := hseries
        fresh := by simp
        touched := by simp
        buckets := hbuckets
        lastCount := by
          rw [hlast]
          simpa [Accumulator.lastCount] using Binary64.equals_self_of_isFinite hfinite
        finite := by simpa [Accumulator.lastCount] using hfinite }

/-- The record of the run collected so far, if there is a line in it. -/
theorem toOption_flush {accumulator : Accumulator} {run : List Sample}
    (hcollects : accumulator.Collects run) :
    (flush (.collecting .histogram accumulator)).toOption =
      Block.recordsOf? accumulator.name .histogram run := by
  by_cases hempty : run = []
  · subst hempty
    have htouched := hcollects.touched
    obtain ⟨name, series, buckets, sum, count, touched⟩ := accumulator
    cases htouched
    rfl
  · have hrecord : Run.record? accumulator.name run =
        (Record.ofCumulative accumulator.name accumulator.buckets).toOption := by
      rw [Run.record?, hcollects.buckets]
      rfl
    have htouched : accumulator.touched = true := by
      rw [hcollects.touched, List.isEmpty_eq_false_iff.mpr hempty]
      rfl
    obtain ⟨first, rest, rfl⟩ := List.exists_cons_of_ne_nil hempty
    have hfirst := hcollects.series first List.mem_cons_self
    have hseries : ∀ other ∈ first :: rest, seriesKey other = seriesKey first := fun other hmem =>
      Option.some.inj ((hcollects.series other hmem).symm.trans hfirst)
    rw [Block.recordsOf?_of_run hcollects.named hseries hempty, hrecord]
    obtain ⟨name, series, buckets, sum, count, touched⟩ := accumulator
    cases htouched
    simp only [flush]
    cases Record.ofCumulative name buckets <;> rfl

end ExporterAudit.Exposition
