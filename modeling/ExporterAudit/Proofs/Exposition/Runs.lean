import ExporterAudit.Proofs.Exposition.Batch

/-!
How the runs of bucket lines and the records of a block grow from the front: a line of another
series ends the first run, and lines that are no bucket lines do not matter.
-/

namespace ExporterAudit

namespace Run

theorem split_eq_singleton {series : Text} {run : List Sample}
    (hseries : ∀ sample ∈ run, Exposition.seriesKey sample = series) (hnonempty : run ≠ []) :
    split run = [run] := by
  refine List.splitBy_of_isChain hnonempty (List.pairwise_of_forall_mem_list ?_).isChain
  intro a ha b hb
  simp [hseries a ha, hseries b hb]

/-- A sample of another series ends the run. -/
theorem split_append_cons {series : Text} {run : List Sample}
    (hseries : ∀ sample ∈ run, Exposition.seriesKey sample = series) (hnonempty : run ≠ [])
    {sample : Sample} (hother : Exposition.seriesKey sample ≠ series) (later : List Sample) :
    split (run ++ sample :: later) = run :: split (sample :: later) := by
  have hends : ∀ last ∈ run.getLast?,
      (Exposition.seriesKey last == Exposition.seriesKey sample) = false := by
    intro last hlast
    rw [hseries last (List.mem_of_mem_getLast? hlast)]
    simpa using hother.symm
  unfold split
  rw [List.splitBy_append_cons later hends]
  exact congrArg (· ++ _) (split_eq_singleton hseries hnonempty)

/-- The first run goes on at least as long as the series does. -/
theorem exists_split_append {series : Text} {run : List Sample}
    (hseries : ∀ sample ∈ run, Exposition.seriesKey sample = series) (hnonempty : run ≠ [])
    (later : List Sample) : ∃ more others, split (run ++ later) = (run ++ more) :: others := by
  induction later generalizing run with
  | nil => exact ⟨[], [], by simpa using split_eq_singleton hseries hnonempty⟩
  | cons sample later ih =>
    by_cases hsame : Exposition.seriesKey sample = series
    · have hextended : ∀ other ∈ run ++ [sample], Exposition.seriesKey other = series := by
        simpa [or_imp, forall_and] using ⟨hseries, hsame⟩
      obtain ⟨more, others, hsplit⟩ := ih hextended (by simp)
      exact ⟨sample :: more, others, by simpa using hsplit⟩
    · exact ⟨[], _, by simpa using split_append_cons hseries hnonempty hsame later⟩

end Run

namespace Block

/-- Without a histogram or a summary each sample is a record. -/
theorem recordsOf?_of_scalar {type : MetricType} (hhistogram : type ≠ .histogram)
    (hsummary : type ≠ .summary) (name : Text) (passing : List Sample) :
    recordsOf? name type passing = some (passing.map Sample.toRecord) := by
  cases type with
  | counter => rfl
  | gauge => rfl
  | untyped => rfl
  | histogram => exact absurd rfl hhistogram
  | summary => exact absurd rfl hsummary

/-- One foreign sample makes a histogram unreadable. -/
theorem recordsOf?_eq_none_of_not_component {name : Text} {passing : List Sample} {sample : Sample}
    (hmem : sample ∈ passing) (hforeign : ¬ sample.IsComponentOf name) :
    recordsOf? name .histogram passing = none :=
  if_neg fun hall => hforeign (hall sample hmem)

/-- Lines of a histogram that are no bucket lines do not matter. -/
theorem recordsOf?_append_cons {name : Text} {sample : Sample} (hpart : sample.IsComponentOf name)
    (hbucket : ¬ sample.IsBucketOf name) (before later : List Sample) :
    recordsOf? name .histogram (before ++ sample :: later) =
      recordsOf? name .histogram (before ++ later) := by
  simp [recordsOf?, hpart, hbucket, or_imp, forall_and]

/-- A run that has ended is a record of its own. -/
theorem recordsOf?_append_cons_of_ends {name series : Text} {run : List Sample} {sample : Sample}
    (hnamed : ∀ other ∈ run, other.IsBucketOf name)
    (hseries : ∀ other ∈ run, Exposition.seriesKey other = series) (hnonempty : run ≠ [])
    (hbucket : sample.IsBucketOf name) (hother : Exposition.seriesKey sample ≠ series)
    (later : List Sample) :
    recordsOf? name .histogram (run ++ sample :: later) =
      (Run.record? name run).bind fun record =>
        (recordsOf? name .histogram (sample :: later)).map (record :: ·) := by
  have hrun : run.filter (·.IsBucketOf name) = run := List.filter_eq_self.mpr (by simpa using hnamed)
  have hsample : (sample :: later).filter (·.IsBucketOf name) =
      sample :: later.filter (·.IsBucketOf name) := List.filter_cons_of_pos (by simpa using hbucket)
  by_cases hall : ∀ other ∈ sample :: later, other.IsComponentOf name
  · have hall' : ∀ other ∈ run ++ sample :: later, other.IsComponentOf name := by
      intro other hmem
      rcases List.mem_append.mp hmem with hmem | hmem
      · exact .inl (hnamed other hmem)
      · exact hall other hmem
    simp only [recordsOf?, if_pos hall, if_pos hall', List.filter_append, hrun, hsample]
    rw [Run.split_append_cons hseries hnonempty hother, List.mapM_cons]
    generalize Run.record? name run = record?, List.mapM (Run.record? name) (Run.split _) = records?
    cases record? <;> cases records? <;> rfl
  · have hall' : ¬ ∀ other ∈ run ++ sample :: later, other.IsComponentOf name := fun h =>
      hall fun other hmem => h other (List.mem_append_right run hmem)
    simp only [recordsOf?, if_neg hall, if_neg hall', Option.map_none]
    cases Run.record? name run <;> rfl

/-- A run without buckets leaves its histogram without records. -/
theorem recordsOf?_append_eq_none {name series : Text} {run : List Sample}
    (hnamed : ∀ other ∈ run, other.IsBucketOf name)
    (hseries : ∀ other ∈ run, Exposition.seriesKey other = series) (hnonempty : run ≠ [])
    (hnone : Run.buckets? run = none) (later : List Sample) :
    recordsOf? name .histogram (run ++ later) = none := by
  have hrun : run.filter (·.IsBucketOf name) = run := List.filter_eq_self.mpr (by simpa using hnamed)
  obtain ⟨more, others, hsplit⟩ :=
    Run.exists_split_append hseries hnonempty (later.filter (·.IsBucketOf name))
  have hrecord : Run.record? name (run ++ more) = none := by
    rw [Run.record?, Run.buckets?_append_eq_none more hnone]
    rfl
  simp only [recordsOf?, List.filter_append, hrun, hsplit, List.mapM_cons, hrecord]
  exact ite_self none

theorem recordsOf?_of_run {name series : Text} {run : List Sample}
    (hnamed : ∀ other ∈ run, other.IsBucketOf name)
    (hseries : ∀ other ∈ run, Exposition.seriesKey other = series) (hnonempty : run ≠ []) :
    recordsOf? name .histogram run = (Run.record? name run).map ([·]) := by
  have hrun : run.filter (·.IsBucketOf name) = run := List.filter_eq_self.mpr (by simpa using hnamed)
  have hall : ∀ other ∈ run, other.IsComponentOf name := fun other hmem => .inl (hnamed other hmem)
  simp only [recordsOf?, if_pos hall, hrun, Run.split_eq_singleton hseries hnonempty]
  cases hrecord : Run.record? name run <;> simp [hrecord]

end Block

end ExporterAudit
