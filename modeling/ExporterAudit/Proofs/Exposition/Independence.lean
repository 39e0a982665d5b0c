import ExporterAudit.Proofs.Exposition.Stepping
import ExporterAudit.Proofs.Exposition.Streaming
import ExporterAudit.Proofs.Record.Matching

/-!
Blocks of lines that start with a type header. The header completes what was being collected, and
nothing else of the lines before it reaches the lines behind it, so a page that is cut before a
header is read part by part, up to the first part that fails.
-/

namespace ExporterAudit.Exposition

def startsWithHeader : List Text → Bool
  | [] => false
  | raw :: _ =>
    match Line.read raw with
    | .ok (.type _ _) => true
    | _ => false

/-- A block that starts with a header can be cut behind it. -/
theorem exists_header {lines : List Text} (hstarts : startsWithHeader lines = true) :
    ∃ header rest name type, lines = header :: rest ∧ Line.read header = .ok (.type name type) := by
  cases lines with
  | nil => cases hstarts
  | cons header rest =>
    simp only [startsWithHeader] at hstarts
    split at hstarts
    · next name type hread => exact ⟨header, rest, name, type, rfl, hread⟩
    · cases hstarts

/-- An outcome, and what comes behind it if it is no failure. -/
def Outcome.followedBy (first second : Outcome) : Outcome :=
  match first.failure with
  | none => second.after first.records
  | some _ => first

theorem Outcome.after_followedBy (records : List Record) (first second : Outcome) :
    (first.after records).followedBy second = .after records (first.followedBy second) := by
  obtain ⟨others, _ | failure⟩ := first
  · simp [followedBy, after]
  · rfl

/-- At a header the records so far are completed, and reading goes on from the header alone. -/
theorem readFrom_header {header : Text} {name : Text} {type : MetricType}
    (hheader : Line.read header = .ok (.type name type)) (filter : SampleFilter) (state : State)
    (rest : List Text) :
    readFrom filter state (header :: rest) =
      (Outcome.ofRecords (flush state)).followedBy
        (readFrom filter (State.ofHeader name type) rest) := by
  rw [readFrom_cons hheader]
  cases hflush : flush state with
  | error failure =>
    simp only [advance, hflush, bind, Except.bind, Outcome.ofRecords, Outcome.followedBy]
  | ok records =>
    simp only [advance, hflush, bind, Except.bind, pure, Except.pure, Outcome.ofRecords,
      Outcome.followedBy]

/-- A header cuts the reading in two, since only the run before it is completed. -/
theorem readFrom_append_header {header : Text} {name : Text} {type : MetricType}
    (hheader : Line.read header = .ok (.type name type)) (filter : SampleFilter) (state : State)
    (before rest : List Text) :
    readFrom filter state (before ++ header :: rest) =
      (readFrom filter state before).followedBy
        (readFrom filter (State.ofHeader name type) rest) := by
  induction before generalizing state with
  | nil => exact readFrom_header hheader filter state rest
  | cons raw before ih =>
    rw [List.cons_append, readFrom, readFrom]
    cases step filter state raw with
    | error failure => rfl
    | ok transition => simp only [ih, Outcome.after_followedBy]

/-- Reading lines that start with a header after other lines is reading both, one after the other. -/
theorem read_append {later : List Text} (hstarts : startsWithHeader later = true)
    (filter : SampleFilter) (lines : List Text) :
    read (lines ++ later) filter = (read lines filter).followedBy (read later filter) := by
  obtain ⟨header, rest, name, type, rfl, hheader⟩ := exists_header hstarts
  have halone : read (header :: rest) filter = readFrom filter (State.ofHeader name type) rest := by
    rw [read, readFrom_header hheader]
    rfl
  rw [halone, read, readFrom_append_header hheader, read]

/-- A block that starts with a header and is read without failure. -/
structure IsBlock (filter : SampleFilter) (block : List Text) : Prop where
  starts : startsWithHeader block = true
  succeeds : (read block filter).failure = none

/-- Blocks without failures are read one by one. -/
theorem read_flatten {filter : SampleFilter} {blocks : List (List Text)}
    (hblocks : ∀ block ∈ blocks, IsBlock filter block) :
    read blocks.flatten filter = ⟨blocks.flatMap fun block => (read block filter).records, none⟩ := by
  induction blocks with
  | nil => rfl
  | cons block rest ih =>
    rw [List.forall_mem_cons] at hblocks
    obtain ⟨⟨-, hsucceeds⟩, hrest⟩ := hblocks
    have hothers := ih hrest
    cases rest with
    | nil =>
      simp only [List.flatten_cons, List.flatten_nil, List.append_nil, List.flatMap_cons,
        List.flatMap_nil, ← hsucceeds]
    | cons next others =>
      have hstarts : startsWithHeader (next :: others).flatten = true := by
        obtain ⟨header, lines, name, type, rfl, hheader⟩ :=
          exists_header (hrest next List.mem_cons_self).starts
        simp only [List.flatten_cons, List.cons_append, startsWithHeader, hheader]
      rw [List.flatten_cons, read_append hstarts, hothers, Outcome.followedBy, hsucceeds]
      rfl

/-- Blocks of lines do not influence one another, also where one of them fails. Lines that end
without failure leave the reading of a block behind them as it is, and a failure, be it the one of a
bound that only the end or the next header brings to light, leaves nothing to what stands behind. So
error-free blocks in another order give their records in that order, and no comparison tells the
orders apart. -/
theorem blocks_read_independently (filter : SampleFilter) :
    (∀ lines later : List Text, startsWithHeader later = true →
      ((read lines filter).failure = none →
        read (lines ++ later) filter =
          ⟨(read lines filter).records ++ (read later filter).records,
            (read later filter).failure⟩) ∧
      ((read lines filter).failure ≠ none → read (lines ++ later) filter = read lines filter)) ∧
    ∀ blocks arranged : List (List Text), (∀ block ∈ blocks, IsBlock filter block) →
      arranged.Perm blocks →
      read arranged.flatten filter =
        ⟨arranged.flatMap fun block => (read block filter).records, none⟩ ∧
      (read arranged.flatten filter).records.Perm (read blocks.flatten filter).records ∧
      ∀ expected, Record.sameRecords (read arranged.flatten filter).records expected =
        Record.sameRecords (read blocks.flatten filter).records expected := by
  refine ⟨fun lines later hstarts => ⟨fun hsucceeds => ?_, fun hfails => ?_⟩,
    fun blocks arranged hblocks hperm => ?_⟩
  · rw [read_append hstarts, Outcome.followedBy, hsucceeds]
    rfl
  · obtain ⟨failure, hfailure⟩ := Option.ne_none_iff_exists'.mp hfails
    rw [read_append hstarts, Outcome.followedBy, hfailure]
  · have harranged := read_flatten fun block hmem => hblocks block (hperm.subset hmem)
    have hrecords : (read arranged.flatten filter).records.Perm
        (read blocks.flatten filter).records := by
      rw [harranged, read_flatten hblocks]
      exact hperm.flatMap_right _
    exact ⟨harranged, hrecords, Record.sameRecords_perm_left hrecords⟩

/-- A histogram whose last bound has no bucket, which only its end shows. -/
def unboundedBlock : List Text :=
  ["# TYPE wait histogram".toList, "wait_bucket\x7ble=\"+Inf\"\x7d 2".toList]

def sizeBlock : List Text :=
  ["# TYPE size histogram".toList, "size_bucket\x7ble=\"4\"\x7d 3".toList, "size_sum 9".toList]

def depthBlock : List Text :=
  ["# TYPE depth gauge".toList, "depth 7".toList]

theorem blocks_read_independently_lateFailure :
    (read unboundedBlock {}).failure ≠ none ∧ startsWithHeader depthBlock = true ∧
      read (unboundedBlock ++ depthBlock) {} = read unboundedBlock {} ∧
      (∀ block ∈ [sizeBlock, depthBlock], IsBlock {} block) ∧
      (read (depthBlock ++ sizeBlock) {}).records.Perm (read (sizeBlock ++ depthBlock) {}).records := by
  have hfails : (read unboundedBlock {}).failure ≠ none := by decide +kernel
  have hstarts : startsWithHeader depthBlock = true := by decide +kernel
  have hsize : IsBlock {} sizeBlock := ⟨by decide +kernel, by decide +kernel⟩
  have hdepth : IsBlock {} depthBlock := ⟨hstarts, by decide +kernel⟩
  have hblocks : ∀ block ∈ [sizeBlock, depthBlock], IsBlock {} block :=
    List.forall_mem_cons.mpr ⟨hsize, List.forall_mem_singleton.mpr hdepth⟩
  obtain ⟨hbehind, harranged⟩ := blocks_read_independently {}
  obtain ⟨-, hrecords, -⟩ := harranged _ [depthBlock, sizeBlock] hblocks (.swap _ _ _)
  exact ⟨hfails, hstarts, (hbehind unboundedBlock depthBlock hstarts).2 hfails, hblocks, hrecords⟩

end ExporterAudit.Exposition
