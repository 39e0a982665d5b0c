import ExporterAudit.Proofs.Exposition.Advancing

/-!
The reader with its state agrees with the page read as a whole. From line to line the records that
it has emitted, and those of the run that its state stands for, are the records of the page so far.
-/

namespace ExporterAudit.Exposition

/-- The records of an outcome without failure. -/
def Outcome.complete? (outcome : Outcome) : Option (List Record) :=
  outcome.toExcept.toOption

@[simp]
theorem complete?_ofRecords (result : Except Failure (List Record)) :
    (Outcome.ofRecords result).complete? = result.toOption := by
  cases result <;> rfl

@[simp]
theorem complete?_failed (records : List Record) (failure : Failure) :
    Outcome.complete? ⟨records, some failure⟩ = none := rfl

@[simp]
theorem complete?_after (records : List Record) (outcome : Outcome) :
    (outcome.after records).complete? = outcome.complete?.map (records ++ ·) := by
  obtain ⟨others, _ | failure⟩ := outcome <;> rfl

theorem complete?_eq_some_iff {outcome : Outcome} {records : List Record} :
    outcome.complete? = some records ↔ outcome = ⟨records, none⟩ := by
  obtain ⟨others, _ | failure⟩ := outcome <;>
    simp [Outcome.complete?, Outcome.toExcept, Except.toOption]

theorem readFrom_cons {raw : Text} {line : Line} (hline : Line.read raw = .ok line)
    (filter : SampleFilter) (state : State) (rest : List Text) :
    readFrom filter state (raw :: rest) =
      match advance state line raw filter with
      | .error failure => ⟨[], some failure⟩
      | .ok transition => .after transition.emitted (readFrom filter transition.state rest) := by
  rw [readFrom, step, hline]
  rfl

/-- The records of the samples collected since the last header, and of the page that follows. -/
def recordsAfter? (filter : SampleFilter) (name : Text) (type : MetricType) (run : List Sample)
    (page : Page) : Option (List Record) := do
  let first ← Block.recordsOf? name type (run ++ page.leading.filter filter.accepts)
  let others ← page.blocks.mapM (·.records? filter)
  return first ++ others.flatten

/-- A header closes the run so far, and the rest of the page is on its own. -/
theorem recordsAfter?_header (filter : SampleFilter) (name : Text) (type : MetricType)
    (run : List Sample) (next : Text) (declared : MetricType) (rest : List Line) :
    recordsAfter? filter name type run (Page.ofLines (.type next declared :: rest)) =
      (Block.recordsOf? name type run).bind fun records =>
        (recordsAfter? filter next declared [] (Page.ofLines rest)).map (records ++ ·) := by
  have hnext : (Block.mk next declared (Page.ofLines rest).leading).records? filter =
      Block.recordsOf? next declared ((Page.ofLines rest).leading.filter filter.accepts) := rfl
  simp only [recordsAfter?, Page.ofLines, List.filter_nil, List.append_nil, List.nil_append,
    List.mapM_cons, hnext]
  generalize Block.recordsOf? name type run = first?, Block.recordsOf? next declared _ = second?,
    (Page.ofLines rest).blocks.mapM (·.records? filter) = others?
  cases first? <;> cases second? <;> cases others? <;> simp

/-- A sample that no run can hold leaves the page without records, whatever follows. -/
theorem recordsAfter?_of_refused {filter : SampleFilter} {name : Text} {type : MetricType}
    {run : List Sample} {sample : Sample} (haccepts : filter.accepts sample = true)
    (hrefused : ∀ later, Block.recordsOf? name type (run ++ sample :: later) = none)
    (rest : List Line) :
    recordsAfter? filter name type run (Page.ofLines (.sample sample :: rest)) = none := by
  simp only [recordsAfter?, Page.ofLines, List.filter_cons_of_pos haccepts, hrefused]
  rfl

/-- A sample that moves on from a run emits its records, and the rest goes on from the new run. -/
theorem recordsAfter?_of_moved {filter : SampleFilter} {name : Text} {type : MetricType}
    {run moved : List Sample} {sample : Sample} {emitted : List Record}
    (haccepts : filter.accepts sample = true)
    (hmoves : ∀ later, Block.recordsOf? name type (run ++ sample :: later) =
      (Block.recordsOf? name type (moved ++ later)).map (emitted ++ ·))
    (rest : List Line) :
    recordsAfter? filter name type run (Page.ofLines (.sample sample :: rest)) =
      (recordsAfter? filter name type moved (Page.ofLines rest)).map (emitted ++ ·) := by
  simp only [recordsAfter?, Page.ofLines, List.filter_cons_of_pos haccepts, hmoves]
  generalize Block.recordsOf? name type _ = first?,
    (Page.ofLines rest).blocks.mapM (·.records? filter) = others?
  cases first? <;> cases others? <;> simp

/-- The bucket lines that are still to come report finite counts, those before the next header
as lines of the last one. -/
structure Countable (filter : SampleFilter) (name : Text) (type : MetricType) (page : Page) :
    Prop where
  leading : type = .histogram → ∀ sample ∈ page.leading, filter.accepts sample = true →
    sample.IsBucketOf name → sample.value.isFinite = true
  blocks : page.FiniteCounts filter

theorem Countable.of_header {filter : SampleFilter} {name next : Text} {type declared : MetricType}
    {rest : List Line}
    (hcountable : Countable filter name type (Page.ofLines (.type next declared :: rest))) :
    Countable filter next declared (Page.ofLines rest) where
  leading := fun htype sample hmem haccepts =>
    hcountable.blocks _ List.mem_cons_self htype sample (List.mem_filter.mpr ⟨hmem, haccepts⟩)
  blocks := fun block hmem => hcountable.blocks block (List.mem_cons_of_mem _ hmem)

theorem Countable.of_sample {filter : SampleFilter} {name : Text} {type : MetricType}
    {sample : Sample} {rest : List Line}
    (hcountable : Countable filter name type (Page.ofLines (.sample sample :: rest))) :
    Countable filter name type (Page.ofLines rest) where
  leading := fun htype other hmem => hcountable.leading htype other (List.mem_cons_of_mem _ hmem)
  blocks := hcountable.blocks

/-- One line moves the reader along the page: what it emits are the records that the page loses, or
it is refused and the page has none. -/
theorem advance_follows {filter : SampleFilter} {state : State} {name : Text} {type : MetricType}
    {run : List Sample} (hfollows : Follows state name type run) (line : Line) (rest : List Line)
    (hcountable : Countable filter name type (Page.ofLines (line :: rest))) (raw : Text) :
    match advance state line raw filter with
    | .error _ => recordsAfter? filter name type run (Page.ofLines (line :: rest)) = none
    | .ok transition => ∃ name' type' moved, Follows transition.state name' type' moved ∧
        Countable filter name' type' (Page.ofLines rest) ∧
        recordsAfter? filter name type run (Page.ofLines (line :: rest)) =
          (recordsAfter? filter name' type' moved (Page.ofLines rest)).map
            (transition.emitted ++ ·) := by
  have hstays (page : Page) : recordsAfter? filter name type run page =
      (recordsAfter? filter name type run page).map ([] ++ ·) := by
    simp
  cases line with
  | blank => exact ⟨name, type, run, hfollows, hcountable, hstays _⟩
  | comment text => exact ⟨name, type, run, hfollows, hcountable, hstays _⟩
  | help help text => exact ⟨name, type, run, hfollows, hcountable, hstays _⟩
  | type next declared =>
    have hflush := hfollows.toOption_flush
    rw [recordsAfter?_header, ← hflush]
    simp only [advance, bind, Except.bind]
    cases flush state with
    | error failure => rfl
    | ok emitted =>
      exact ⟨next, declared, [], follows_ofHeader next declared, hcountable.of_header, rfl⟩
  | sample sample =>
    by_cases haccepts : filter.accepts sample = true
    · have hadvances := acceptSample_advances hfollows
        (fun htype => hcountable.leading htype sample List.mem_cons_self haccepts) raw
      simp only [advance, if_pos haccepts]
      cases haccept : acceptSample state sample raw with
      | error failure =>
        rw [haccept] at hadvances
        exact recordsAfter?_of_refused haccepts hadvances rest
      | ok transition =>
        rw [haccept] at hadvances
        obtain ⟨moved, hmoved, hmoves⟩ := hadvances
        exact ⟨name, type, moved, hmoved, hcountable.of_sample,
          recordsAfter?_of_moved haccepts hmoves rest⟩
    · simp only [advance, if_neg haccepts]
      refine ⟨name, type, run, hfollows, hcountable.of_sample, ?_⟩
      simp [recordsAfter?, Page.ofLines, haccepts]

/-- From any state the reader emits the records of the page that is left, together with the run
that the state stands for, or fails if they cannot be read. -/
theorem complete?_readFrom {filter : SampleFilter} {state : State} {name : Text} {type : MetricType}
    {run : List Sample} (hfollows : Follows state name type run) {lines : List Text}
    {classified : List Line} (hread : lines.mapM Line.read = .ok classified)
    (hcountable : Countable filter name type (Page.ofLines classified)) :
    (readFrom filter state lines).complete? =
      recordsAfter? filter name type run (Page.ofLines classified) := by
  -- The run that the state stands for carries the induction; the end of the lines flushes it.
  induction lines generalizing state name type run classified with
  | nil =>
    cases hread
    rw [readFrom, complete?_ofRecords, hfollows.toOption_flush]
    change _ = recordsAfter? filter name type run ⟨[], []⟩
    cases hrecords : Block.recordsOf? name type run <;> simp [recordsAfter?, hrecords]
  | cons raw rest ih =>
    rw [List.mapM_cons] at hread
    cases hline : Line.read raw with
    | error failure => rw [hline] at hread; cases hread
    | ok line =>
      cases hrest : rest.mapM Line.read with
      | error failure => rw [hline, hrest] at hread; cases hread
      | ok others =>
        rw [hline, hrest] at hread
        cases hread
        have hstep := advance_follows hfollows line others hcountable raw
        rw [readFrom_cons hline]
        cases hadvance : advance state line raw filter with
        | error failure =>
          rw [hadvance] at hstep
          exact hstep.symm
        | ok transition =>
          rw [hadvance] at hstep
          obtain ⟨name', type', moved, hmoved, hothers, hrecords⟩ := hstep
          rw [hrecords, ← ih hmoved hrest hothers]
          exact complete?_after transition.emitted _

/-- The reader emits exactly the records of the page, or fails where the page has none. -/
theorem complete?_read {filter : SampleFilter} {lines : List Text} {classified : List Line}
    (hread : lines.mapM Line.read = .ok classified)
    (hcounts : (Page.ofLines classified).FiniteCounts filter) :
    (read lines filter).complete? = (Page.ofLines classified).records? filter := by
  have hfollows : Follows .initial [] .untyped [] := .idle (by decide) (by decide)
  have hcountable : Countable filter [] .untyped (Page.ofLines classified) :=
    ⟨(fun htype => by cases htype), hcounts⟩
  rw [read, complete?_readFrom hfollows hread hcountable]
  rfl

theorem eq_ok_of_isSome_toOption {ε α : Type} {result : Except ε α} (default : α)
    (hok : result.toOption.isSome = true) : result = .ok (result.toOption.getD default) := by
  cases result with
  | error failure => cases hok
  | ok value => rfl

/-- Reading line by line refines reading the page as a whole. Of lines that can all be classified,
with finite counts, the reader makes it to the end exactly if the page is readable and the octaves of
all that it counts are found. Then it emits the records of the page: one for each sample outside
histograms, and one for each maximal run of bucket lines of one series, rebuilt from the lines of the
run that change its count. -/
theorem read_refines_page {lines : List Text} {classified : List Line} {filter : SampleFilter}
    (hread : lines.mapM Line.read = .ok classified)
    (hcounts : (Page.ofLines classified).FiniteCounts filter) :
    let page := Page.ofLines classified
    ((read lines filter).failure = none ↔ page.Readable filter ∧ page.OctavesFound filter) ∧
    (page.Readable filter → page.OctavesFound filter →
      page.records? filter = some (read lines filter).records) := by
  intro page
  have hrecords := complete?_read hread hcounts
  have hfailure : (read lines filter).failure = none ↔
      ((read lines filter).complete?).isSome = true := by
    cases hresult : read lines filter with
    | mk records failure =>
      cases failure <;> simp [Outcome.complete?, Outcome.toExcept, Except.toOption]
  rw [hfailure, hrecords, Page.isSome_records?_iff]
  refine ⟨Iff.rfl, fun hreadable hfound => ?_⟩
  obtain ⟨records, hsome⟩ := Option.isSome_iff_exists.mp
    (Page.isSome_records?_iff.mpr ⟨hreadable, hfound⟩)
  rw [hsome, complete?_eq_some_iff] at hrecords
  rw [hsome, hrecords]

/-- A gauge, and a histogram of two series, with a line that repeats the count before it. -/
def twoShards : List Text := [
  "# TYPE depth gauge".toList,
  "depth 7".toList,
  "# TYPE wait histogram".toList,
  "wait_bucket\x7bshard=\"0\",le=\"2\"\x7d 1".toList,
  "wait_bucket\x7bshard=\"0\",le=\"4\"\x7d 1".toList,
  "wait_bucket\x7bshard=\"0\",le=\"8\"\x7d 3".toList,
  "wait_sum\x7bshard=\"0\"\x7d 12".toList,
  "wait_bucket\x7bshard=\"1\",le=\"8\"\x7d 2".toList,
  "wait_count\x7bshard=\"1\"\x7d 2".toList]

theorem read_refines_page_twoShards :
    let classified := (twoShards.mapM Line.read).toOption.getD []
    twoShards.mapM Line.read = .ok classified ∧ (Page.ofLines classified).FiniteCounts {} ∧
      (read twoShards {}).failure = none ∧ (read twoShards {}).records.length = 3 := by
  intro classified
  have hread : twoShards.mapM Line.read = .ok classified :=
    eq_ok_of_isSome_toOption [] (by decide +kernel)
  have hcounts : (Page.ofLines classified).FiniteCounts {} := by decide +kernel
  have hrecords : ((Page.ofLines classified).records? {}).map List.length = some 3 := by
    decide +kernel
  have hreadable : (Page.ofLines classified).Readable {} ∧ (Page.ofLines classified).OctavesFound {} :=
    Page.isSome_records?_iff.mp (by decide +kernel)
  obtain ⟨hcomplete, hpage⟩ := read_refines_page hread hcounts
  refine ⟨hread, hcounts, hcomplete.mpr hreadable, ?_⟩
  rw [hpage hreadable.1 hreadable.2] at hrecords
  exact Option.some.inj hrecords

/-- A histogram whose one bucket is bounded by the greatest number. -/
def greatestBound : List Text := [
  "# TYPE wait histogram".toList,
  "wait_bucket\x7ble=\"1.7976931348623157e308\"\x7d 1".toList]

/-- A readable page need not be read to its end. -/
theorem read_endless_of_greatestBound :
    let classified := (greatestBound.mapM Line.read).toOption.getD []
    greatestBound.mapM Line.read = .ok classified ∧ (Page.ofLines classified).FiniteCounts {} ∧
      (Page.ofLines classified).Readable {} ∧
      ∃ value, (read greatestBound {}).failure = some (.endless value) := by
  intro classified
  have hread : greatestBound.mapM Line.read = .ok classified :=
    eq_ok_of_isSome_toOption [] (by decide +kernel)
  have hreadable : (Page.ofLines classified).Readable {} :=
    ⟨by decide +kernel, by decide +kernel, by decide +kernel⟩
  have hendless : (read greatestBound {}).failure.any Failure.isEndless = true := by decide +kernel
  obtain ⟨failure, hfailure, hforever⟩ := (Option.any_eq_true _ _).mp hendless
  obtain ⟨value, rfl⟩ := Failure.isEndless_eq_true_iff.mp hforever
  exact ⟨hread, by decide +kernel, hreadable, value, hfailure⟩

end ExporterAudit.Exposition
