import ExporterAudit.Proofs.Exposition.Collecting
import ExporterAudit.Proofs.Exposition.Components

/-!
Where histograms come from. Every histogram that the reader emits, also one before a failure, is
rebuilt from a maximal run of bucket lines on the page: from those of its lines whose count less the
last count kept is not zero.
-/

namespace ExporterAudit

namespace Run

/-- The samples that are kept: those whose value less the value of the last one kept is not zero. -/
def kept : (last : Binary64) → List Sample → List Sample
  | _, [] => []
  | last, sample :: rest =>
    if (sample.value - last).equals 0 then
      kept last rest
    else
      sample :: kept sample.value rest

/-- The record rebuilt from a run of bucket lines, whatever their counts are. -/
def rebuilt? (name : Text) (run : List Sample) : Option Record :=
  ((kept 0 run).mapM Sample.toBucket?).bind fun buckets =>
    (Record.ofCumulative name buckets).toOption

theorem kept_append_singleton (last : Binary64) (run : List Sample) (sample : Sample) :
    kept last (run ++ [sample]) =
      kept last run ++
        if (sample.value - lastValue last (kept last run)).equals 0 then [] else [sample] := by
  induction run generalizing last with
  | nil => rfl
  | cons first rest ih =>
    have hlast (samples : List Sample) :
        lastValue last (first :: samples) = lastValue first.value samples := by
      cases samples <;> simp [lastValue, List.getLast?_cons]
    simp only [List.cons_append, kept]
    split
    · exact ih last
    · rw [hlast, ih first.value]
      rfl

end Run

/-- The page of those lines that can be read. -/
def Page.ofTexts (lines : List Text) : Page :=
  .ofLines (lines.filterMap fun raw => (Line.read raw).toOption)

theorem Page.blocks_ofLines_sample (sample : Sample) (rest : List Line) :
    (Page.ofLines rest).blocks = (Page.ofLines (.sample sample :: rest)).blocks := rfl

/-- The page with samples put back that were read since the last header. -/
def Page.continued (page : Page) (name : Text) (type : MetricType) (run : List Sample) : Page :=
  ⟨[], ⟨name, type, run ++ page.leading⟩ :: page.blocks⟩

/-- The record is rebuilt from a maximal run of bucket lines on the page. -/
def Page.Rebuilds (page : Page) (filter : SampleFilter) (record : Record) : Prop :=
  ∃ block ∈ page.blocks, block.type = .histogram ∧
    ∃ run ∈ block.runs filter, Run.rebuilt? block.name run = some record

/-! ### Runs on the page -/

/-- Bucket lines that pass the filter come first in the runs of a block. -/
theorem Block.runs_append {filter : SampleFilter} {name : Text} {run : List Sample}
    (haccepted : ∀ sample ∈ run, filter.accepts sample = true)
    (hnamed : ∀ sample ∈ run, sample.IsBucketOf name) (type : MetricType) (later : List Sample) :
    (Block.mk name type (run ++ later)).runs filter =
      Run.split (run ++ (later.filter filter.accepts).filter (·.IsBucketOf name)) := by
  have hall : (run.filter filter.accepts).filter (·.IsBucketOf name) = run := by
    rw [List.filter_eq_self.mpr haccepted, List.filter_eq_self.mpr (by simpa using hnamed)]
  rw [Block.runs, Block.passing, List.filter_append, List.filter_append, hall]

/-- A sample that does not count as a bucket line is in no run. -/
theorem Block.runs_append_cons_of_aside {filter : SampleFilter} {name : Text} {sample : Sample}
    (haside : filter.accepts sample = true → ¬ sample.IsBucketOf name) (type : MetricType)
    (run later : List Sample) :
    (Block.mk name type (run ++ sample :: later)).runs filter =
      (Block.mk name type (run ++ later)).runs filter := by
  simp only [Block.runs, Block.passing, List.filter_append]
  by_cases haccepts : filter.accepts sample = true
  · rw [List.filter_cons_of_pos haccepts, List.filter_cons_of_neg (by simpa using haside haccepts)]
  · rw [List.filter_cons_of_neg haccepts]

/-- What is rebuilt behind some lines is rebuilt with them in front, if no run is lost by that. -/
theorem Page.Rebuilds.of_runs {filter : SampleFilter} {page before : Page} {name : Text}
    {type : MetricType} {run earlier : List Sample} (hblocks : page.blocks = before.blocks)
    (hruns : ∀ found ∈ (Block.mk name type (run ++ page.leading)).runs filter,
      found ∈ (Block.mk name type (earlier ++ before.leading)).runs filter)
    {record : Record} (hrebuilds : (page.continued name type run).Rebuilds filter record) :
    (before.continued name type earlier).Rebuilds filter record := by
  obtain ⟨block, hmem, htype, found, hfound, hrecord⟩ := hrebuilds
  rcases List.mem_cons.mp hmem with rfl | hmem
  · exact ⟨_, List.mem_cons_self, htype, found, hruns found hfound, hrecord⟩
  · exact ⟨block, List.mem_cons_of_mem _ (hblocks ▸ hmem), htype, found, hfound, hrecord⟩

namespace Exposition

/-! ### What an accumulator was filled from -/

/-- An accumulator was filled from a run of bucket lines, whatever their counts are. -/
structure Accumulator.Gathers (accumulator : Accumulator) (run : List Sample) : Prop where
  named : ∀ sample ∈ run, sample.IsBucketOf accumulator.name
  series : ∀ sample ∈ run, accumulator.series = some (seriesKey sample)
  fresh : run = [] → accumulator.series = none
  touched : accumulator.touched = !run.isEmpty
  buckets : (Run.kept 0 run).mapM Sample.toBucket? = some accumulator.buckets
  lastCount : accumulator.lastCount = Run.lastValue 0 (Run.kept 0 run)

theorem gathers_fresh (name : Text) : Accumulator.Gathers { name } [] where
  named := by simp
  series := by simp
  fresh := fun _ => rfl
  touched := rfl
  buckets := rfl
  lastCount := rfl

theorem Accumulator.Gathers.withTotals {accumulator : Accumulator} {run : List Sample}
    (hgathers : accumulator.Gathers run) (sum count : Binary64) :
    Accumulator.Gathers { accumulator with sum, count } run where
  named := hgathers.named
  series := hgathers.series
  fresh := hgathers.fresh
  touched := hgathers.touched
  buckets := hgathers.buckets
  lastCount := hgathers.lastCount

/-- A run that is not empty is of one series. -/
theorem Accumulator.Gathers.exists_series {accumulator : Accumulator} {run : List Sample}
    (hgathers : accumulator.Gathers run) (hnonempty : run ≠ []) :
    ∃ series, accumulator.series = some series ∧ ∀ sample ∈ run, seriesKey sample = series := by
  obtain ⟨first, rest, rfl⟩ := List.exists_cons_of_ne_nil hnonempty
  have hfirst := hgathers.series first List.mem_cons_self
  exact ⟨seriesKey first, hfirst, fun sample hmem =>
    Option.some.inj ((hgathers.series sample hmem).symm.trans hfirst)⟩

/-- A line of the same series goes to the end of the run, kept or not. -/
theorem Accumulator.Gathers.add {accumulator next : Accumulator} {run : List Sample}
    (hgathers : accumulator.Gathers run) {sample : Sample}
    (hbucket : sample.IsBucketOf accumulator.name)
    (hsame : ∀ other ∈ run, seriesKey other = seriesKey sample) {raw : Text}
    (hadd : accumulator.add sample raw = .ok next) :
    next.name = accumulator.name ∧ next.Gathers (run ++ [sample]) := by
  have hkept := Run.kept_append_singleton 0 run sample
  rw [← hgathers.lastCount] at hkept
  have hnamed : ∀ other ∈ run ++ [sample], other.IsBucketOf accumulator.name := by
    simpa [or_imp, forall_and] using ⟨hgathers.named, hbucket⟩
  have hseries : ∀ other ∈ run ++ [sample], some (seriesKey sample) = some (seriesKey other) := by
    simpa [or_imp, forall_and, eq_comm] using hsame
  unfold Accumulator.add at hadd
  split at hadd
  · next hrepeats =>
    rw [if_pos hrepeats, List.append_nil] at hkept
    cases hadd
    exact ⟨rfl, {
      named := hnamed
      series := hseries
      fresh := by simp
      touched := by simp
      buckets := hkept ▸ hgathers.buckets
      lastCount := hkept ▸ hgathers.lastCount }⟩
  · next hchanges =>
    rw [if_neg hchanges] at hkept
    obtain ⟨bound, hbound, hnext⟩ := bind_eq_ok_iff.mp hadd
    cases hnext
    have hread : sample.bound? = some bound := by
      rw [← toOption_bound sample raw, hbound]
      rfl
    exact ⟨rfl, {
      named := hnamed
      series := hseries
      fresh := by simp
      touched := by simp
      buckets := by
        rw [hkept, List.mapM_append, hgathers.buckets]
        simp [Sample.toBucket?, hread]
      lastCount := by
        rw [hkept, Run.lastValue_append_singleton]
        simp [Accumulator.lastCount] }⟩

/-- The record that is emitted is rebuilt from the run that was gathered. -/
theorem Accumulator.Gathers.rebuilt_of_flush {accumulator : Accumulator} {run : List Sample}
    (hgathers : accumulator.Gathers run) {emitted : List Record}
    (hflush : flush (.collecting .histogram accumulator) = .ok emitted) {record : Record}
    (hmem : record ∈ emitted) :
    run ≠ [] ∧ Run.rebuilt? accumulator.name run = some record := by
  have htouched := hgathers.touched
  have hbuckets := hgathers.buckets
  obtain ⟨name, series, buckets, sum, count, touched⟩ := accumulator
  cases touched with
  | false =>
    cases hflush
    cases hmem
  | true =>
    obtain ⟨rebuilt, hrebuilt, hemitted⟩ := bind_eq_ok_iff.mp hflush
    cases hemitted
    obtain rfl := List.mem_singleton.mp hmem
    refine ⟨?_, ?_⟩
    · rintro rfl
      cases htouched
    · rw [Run.rebuilt?, hbuckets]
      exact toOption_eq_some_iff.mpr hrebuilt

/-! ### What a state was reached from -/

/-- What the reader's state knows about the accepted samples since the last header or record. -/
inductive Holds (filter : SampleFilter) :
    State → (name : Text) → (type : MetricType) → List Sample → Prop
  | idle {declared : Option MetricType} {name : Text} {type : MetricType}
      (hhistogram : type ≠ .histogram) : Holds filter (.idle declared) name type []
  | summary {accumulator : Accumulator} (huntouched : accumulator.touched = false) :
      Holds filter (.collecting .summary accumulator) accumulator.name .summary []
  | histogram {accumulator : Accumulator} {run : List Sample}
      (haccepted : ∀ sample ∈ run, filter.accepts sample = true)
      (hgathers : accumulator.Gathers run) :
      Holds filter (.collecting .histogram accumulator) accumulator.name .histogram run

theorem holds_ofHeader (filter : SampleFilter) (name : Text) (type : MetricType) :
    Holds filter (State.ofHeader name type) name type [] := by
  cases type with
  | histogram => exact .histogram (by simp) (gathers_fresh name)
  | summary => exact .summary rfl
  | counter => exact .idle (by decide)
  | gauge => exact .idle (by decide)
  | untyped => exact .idle (by decide)

/-- What a header or the end emits is rebuilt from the run that the state stands for. -/
theorem Holds.rebuilds_of_flush {filter : SampleFilter} {state : State} {name : Text}
    {type : MetricType} {run : List Sample} (hholds : Holds filter state name type run)
    {emitted : List Record} (hflush : flush state = .ok emitted) {record : Record}
    (hmem : record ∈ emitted) {page : Page} (hended : page.leading = []) :
    (page.continued name type run).Rebuilds filter record := by
  cases hholds with
  | idle hhistogram =>
    cases hflush
    cases hmem
  | @summary accumulator huntouched =>
    obtain ⟨name, series, buckets, sum, count, touched⟩ := accumulator
    cases huntouched
    cases hflush
    cases hmem
  | histogram haccepted hgathers =>
    obtain ⟨hnonempty, hrecord⟩ := hgathers.rebuilt_of_flush hflush hmem
    obtain ⟨series, -, hseries⟩ := hgathers.exists_series hnonempty
    refine ⟨_, List.mem_cons_self, rfl, run, ?_, hrecord⟩
    rw [Block.runs_append haccepted hgathers.named]
    simp [hended, Run.split_eq_singleton hseries hnonempty]

/-! ### One step and all steps -/

/-- The histograms that a step emits, and those that can still come after it, are rebuilt from the page
before it. -/
def Sourced (filter : SampleFilter) (before : Page) (transition : Transition) (rest : Page) : Prop :=
  ∃ name type run, Holds filter transition.state name type run ∧
    (∀ record ∈ transition.emitted, ∀ counts, record.value = .histogram counts →
      before.Rebuilds filter record) ∧
    ∀ record, (rest.continued name type run).Rebuilds filter record → before.Rebuilds filter record

/-- A line that nothing is made of. -/
theorem sourced_of_aside {filter : SampleFilter} {state : State} {name : Text} {type : MetricType}
    {run : List Sample} (hholds : Holds filter state name type run) {before rest : Page}
    (hblocks : rest.blocks = before.blocks)
    (hruns : (Block.mk name type (run ++ rest.leading)).runs filter =
      (Block.mk name type (run ++ before.leading)).runs filter) :
    Sourced filter (before.continued name type run) { state } rest :=
  ⟨name, type, run, hholds, by simp, fun _ => .of_runs hblocks (by simp [hruns])⟩

/-- Behind a header the run so far is maximal, so what it emits is rebuilt from a run of the page.
-/
theorem sourced_header {filter : SampleFilter} {state : State} {name : Text} {type : MetricType}
    {run : List Sample} (hholds : Holds filter state name type run) {next : Text}
    {declared : MetricType} {emitted : List Record} (hflush : flush state = .ok emitted)
    (rest : List Line) :
    Sourced filter ((Page.ofLines (.type next declared :: rest)).continued name type run)
      ⟨State.ofHeader next declared, emitted⟩ (Page.ofLines rest) := by
  refine ⟨next, declared, [], holds_ofHeader filter next declared,
    fun record hmem _ _ => hholds.rebuilds_of_flush hflush hmem rfl, ?_⟩
  rintro record ⟨block, hmem, hfound⟩
  exact ⟨block, List.mem_cons_of_mem _ hmem, hfound⟩

/-- A bucket line prolongs the run, or ends it and starts another one. -/
theorem sourced_bucketLine {filter : SampleFilter} {accumulator : Accumulator} {run : List Sample}
    (haccepted : ∀ sample ∈ run, filter.accepts sample = true) (hgathers : accumulator.Gathers run)
    {sample : Sample} (haccepts : filter.accepts sample = true)
    (hbucket : sample.IsBucketOf accumulator.name) {raw : Text} {transition : Transition}
    (hadd : addBucket .histogram accumulator sample raw = .ok transition) (rest : List Line) :
    Sourced filter ((Page.ofLines (.sample sample :: rest)).continued accumulator.name .histogram run)
      transition (Page.ofLines rest) := by
  rcases addBucket_cases hadd with
    ⟨hcontinues, next, hnext, rfl⟩ | ⟨hends, emitted, next, hflush, hnext, rfl⟩
  · have hsame : ∀ other ∈ run, seriesKey other = seriesKey sample := by
      intro other hmem
      simpa [hgathers.series other hmem] using hcontinues
    obtain ⟨hname, hprolonged⟩ := hgathers.add hbucket hsame hnext
    have hall : ∀ other ∈ run ++ [sample], filter.accepts other = true := by
      simpa [or_imp, forall_and] using ⟨haccepted, haccepts⟩
    refine ⟨accumulator.name, .histogram, run ++ [sample], hname ▸ .histogram hall hprolonged, by simp,
      fun record => .of_runs (Page.blocks_ofLines_sample sample rest) fun found hfound => ?_⟩
    simpa [Page.ofLines] using hfound
  · obtain ⟨hname, hfirst⟩ := (gathers_fresh accumulator.name).add hbucket (by simp) hnext
    have hnonempty : run ≠ [] := by
      intro hempty
      rw [hgathers.fresh hempty] at hends
      exact hends rfl
    obtain ⟨series, hcollected, hseries⟩ := hgathers.exists_series hnonempty
    have hother : seriesKey sample ≠ series := fun heq =>
      hends (by simp [hcollected, heq])
    have hruns (later : List Sample) :
        (Block.mk accumulator.name .histogram (run ++ sample :: later)).runs filter =
          run :: (Block.mk accumulator.name .histogram ([sample] ++ later)).runs filter := by
      rw [Block.runs_append haccepted hgathers.named,
        Block.runs_append (by simpa using haccepts) (by simpa using hbucket),
        List.filter_cons_of_pos haccepts, List.filter_cons_of_pos (by simpa using hbucket)]
      exact Run.split_append_cons hseries hnonempty hother _
    refine ⟨accumulator.name, .histogram, [sample],
      hname ▸ .histogram (by simpa using haccepts) hfirst, fun record hmem _ _ => ?_,
      fun record => .of_runs (Page.blocks_ofLines_sample sample rest) fun found hfound => ?_⟩
    · obtain ⟨-, hrecord⟩ := hgathers.rebuilt_of_flush hflush hmem
      refine ⟨_, List.mem_cons_self, rfl, run, ?_, hrecord⟩
      simp [Page.ofLines, hruns]
    · simp only [Page.ofLines, hruns]
      exact List.mem_cons_of_mem _ hfound

/-- An accepted sample goes on with its run, or ends it and starts another. -/
theorem sourced_sample {filter : SampleFilter} {state : State} {name : Text} {type : MetricType}
    {run : List Sample} (hholds : Holds filter state name type run) {sample : Sample}
    (haccepts : filter.accepts sample = true) {raw : Text} {transition : Transition}
    (haccept : acceptSample state sample raw = .ok transition) (rest : List Line) :
    Sourced filter ((Page.ofLines (.sample sample :: rest)).continued name type run)
      transition (Page.ofLines rest) := by
  cases hholds with
  | @idle declared name type hhistogram =>
    cases haccept
    refine ⟨name, type, [], .idle hhistogram, ?_, fun record => ?_⟩
    · intro record hmem counts hvalue
      obtain rfl := List.mem_singleton.mp hmem
      cases hvalue
    · rintro ⟨block, hmem, htype, hfound⟩
      rcases List.mem_cons.mp hmem with rfl | hmem
      · exact absurd htype hhistogram
      · exact ⟨block, List.mem_cons_of_mem _ hmem, htype, hfound⟩
  | summary huntouched => cases haccept
  | @histogram accumulator _ haccepted hgathers =>
    rcases acceptSample_eq_ok haccept with ⟨hbucket, hadd⟩ | ⟨htotal, sum, count, rfl⟩
    · exact sourced_bucketLine haccepted hgathers haccepts hbucket hadd rest
    · -- A sum or a count is kept beside the run.
      have hkept := hgathers.withTotals sum count
      have haside : filter.accepts sample = true → ¬ sample.IsBucketOf accumulator.name :=
        fun _ => htotal.not_isBucketOf
      have hruns := Block.runs_append_cons_of_aside haside .histogram run (Page.ofLines rest).leading
      exact sourced_of_aside (.histogram haccepted hkept) (Page.blocks_ofLines_sample sample rest)
        hruns.symm

/-- One line: what it emits, and what can still come, is rebuilt from the page before it. -/
theorem sourced_advance {filter : SampleFilter} {state : State} {name : Text} {type : MetricType}
    {run : List Sample} (hholds : Holds filter state name type run) {line : Line} {raw : Text}
    {transition : Transition} (hadvance : advance state line raw filter = .ok transition)
    (rest : List Line) :
    Sourced filter ((Page.ofLines (line :: rest)).continued name type run) transition
      (Page.ofLines rest) := by
  cases line with
  | blank | comment | help =>
    cases hadvance
    exact sourced_of_aside hholds rfl rfl
  | type next declared =>
    obtain ⟨emitted, hflush, hnext⟩ := bind_eq_ok_iff.mp hadvance
    cases hnext
    exact sourced_header hholds hflush rest
  | sample sample =>
    rw [advance] at hadvance
    split at hadvance
    · next haccepts => exact sourced_sample hholds haccepts hadvance rest
    · next hrejected =>
      cases hadvance
      exact sourced_of_aside hholds (Page.blocks_ofLines_sample sample rest)
        (Block.runs_append_cons_of_aside (fun haccepts => absurd haccepts hrejected) _ _ _).symm

/-- Every histogram that is emitted from a state on is rebuilt from the page that is left, together
with the run that the state stands for. -/
theorem rebuilds_of_mem_readFrom {filter : SampleFilter} {state : State} {name : Text}
    {type : MetricType} {run : List Sample} (hholds : Holds filter state name type run)
    {lines : List Text} {record : Record} (hmem : record ∈ (readFrom filter state lines).records)
    {counts : BucketCounts} (hvalue : record.value = .histogram counts) :
    ((Page.ofTexts lines).continued name type run).Rebuilds filter record := by
  -- A line that fails ends the reading, so the lines behind it do not matter.
  induction lines generalizing state name type run with
  | nil =>
    rw [readFrom] at hmem
    cases hflush : flush state with
    | error failure =>
      rw [hflush] at hmem
      cases hmem
    | ok emitted =>
      rw [hflush] at hmem
      exact hholds.rebuilds_of_flush hflush hmem rfl
  | cons raw rest ih =>
    rw [readFrom] at hmem
    cases hstep : step filter state raw with
    | error failure =>
      rw [hstep] at hmem
      cases hmem
    | ok transition =>
      rw [hstep] at hmem
      obtain ⟨line, hread, hadvance⟩ := bind_eq_ok_iff.mp hstep
      have hpage : Page.ofTexts (raw :: rest) =
          .ofLines (line :: rest.filterMap fun raw => (Line.read raw).toOption) := by
        rw [Page.ofTexts, List.filterMap_cons, hread]
        rfl
      obtain ⟨name', type', moved, hmoved, hemitted, hlater⟩ := sourced_advance hholds hadvance
        (rest.filterMap fun raw => (Line.read raw).toOption)
      rw [hpage]
      rcases List.mem_append.mp hmem with hmem | hmem
      · exact hemitted record hmem counts hvalue
      · exact hlater record (ih hmoved hmem)

/-- Every histogram that is emitted, also before a failure, is rebuilt from a maximal run of bucket
lines on the page. -/
theorem rebuilds_of_mem_read {filter : SampleFilter} {lines : List Text} {record : Record}
    (hmem : record ∈ (read lines filter).records) {counts : BucketCounts}
    (hvalue : record.value = .histogram counts) : (Page.ofTexts lines).Rebuilds filter record := by
  have hholds : Holds filter .initial [] .untyped [] := .idle (by decide)
  obtain ⟨block, hblock, htype, hfound⟩ := rebuilds_of_mem_readFrom hholds hmem hvalue
  rcases List.mem_cons.mp hblock with rfl | hblock
  · cases htype
  · exact ⟨block, hblock, htype, hfound⟩

end Exposition

end ExporterAudit
