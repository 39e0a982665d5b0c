import ExporterAudit.Exposition
import ExporterAudit.Proofs.BucketCounts.Sums
import Mathlib.Data.List.SplitBy

/-!
Exposition text read as a whole. Lines are cut at their type headers into blocks, and each block
is turned into records on its own: the bucket lines of a histogram are grouped into maximal runs
of one series, and each run is one record.
-/

namespace ExporterAudit

/-- The samples below one type header. -/
structure Block where
  name : Text
  type : MetricType
  samples : List Sample

/-- Lines cut at their type headers: the samples before the first header, and the blocks. -/
structure Page where
  leading : List Sample
  blocks : List Block

def Page.ofLines : List Line → Page
  | [] => ⟨[], []⟩
  | .type name type :: rest =>
    ⟨[], ⟨name, type, (ofLines rest).leading⟩ :: (ofLines rest).blocks⟩
  | .sample sample :: rest => ⟨sample :: (ofLines rest).leading, (ofLines rest).blocks⟩
  | .blank :: rest | .comment _ :: rest | .help _ _ :: rest => ofLines rest

namespace Sample

def toRecord (sample : Sample) : Record :=
  .scalar sample.name sample.value sample.labels

/-- A bucket line of a histogram. -/
def IsBucketOf (name : Text) (sample : Sample) : Prop :=
  sample.name = name ++ "_bucket"

/-- A line that may stand below the header of a histogram. -/
def IsComponentOf (name : Text) (sample : Sample) : Prop :=
  sample.IsBucketOf name ∨ sample.name = name ++ "_sum" ∨ sample.name = name ++ "_count"

instance (name : Text) (sample : Sample) : Decidable (sample.IsBucketOf name) :=
  inferInstanceAs (Decidable (_ = _))

instance (name : Text) (sample : Sample) : Decidable (sample.IsComponentOf name) :=
  inferInstanceAs (Decidable (_ ∨ _))

/-- The upper bound of a bucket line, if it has one that is a number. -/
def bound? (sample : Sample) : Option Binary64 :=
  (sample.labels.get? Exposition.boundLabel).bind Line.value?

/-- A bucket line as a cumulative bucket. -/
def toBucket? (sample : Sample) : Option CumulativeBucket :=
  sample.bound?.map fun bound => { bound, count := sample.value }

end Sample

namespace Run

/-- The samples whose value differs from the value of the sample just before. -/
def changes : (previous : Binary64) → List Sample → List Sample
  | _, [] => []
  | previous, sample :: rest =>
    if sample.value.equals previous then
      changes sample.value rest
    else
      sample :: changes sample.value rest

/-- The value of the last sample, of an earlier one if there is none. -/
def lastValue (previous : Binary64) (samples : List Sample) : Binary64 :=
  (samples.getLast?.map Sample.value).getD previous

/-- The cumulative buckets of a run; a line that repeats the count before it has none. -/
def buckets? (run : List Sample) : Option (List CumulativeBucket) :=
  (changes 0 run).mapM Sample.toBucket?

/-- The record of a run of bucket lines. -/
def record? (name : Text) (run : List Sample) : Option Record :=
  (buckets? run).bind fun buckets => (Record.ofCumulative name buckets).toOption

/-- The maximal runs of consecutive samples of one series. -/
def split (samples : List Sample) : List (List Sample) :=
  samples.splitBy fun a b => Exposition.seriesKey a == Exposition.seriesKey b

/-- Changes go on from the last count of what came before. -/
theorem changes_append (previous : Binary64) (first second : List Sample) :
    changes previous (first ++ second) =
      changes previous first ++ changes (lastValue previous first) second := by
  induction first generalizing previous with
  | nil => rfl
  | cons sample rest ih =>
    have hlast : lastValue previous (sample :: rest) = lastValue sample.value rest := by
      cases rest <;> simp [lastValue, List.getLast?_cons]
    simp only [List.cons_append, changes, ih, hlast]
    split <;> rfl

theorem lastValue_append_singleton (previous : Binary64) (run : List Sample) (sample : Sample) :
    lastValue previous (run ++ [sample]) = sample.value := by
  simp [lastValue]

/-- A run has its buckets if both parts have theirs, the second one going on from the first. -/
theorem buckets?_append (first second : List Sample) :
    buckets? (first ++ second) = (do
      let before ← buckets? first
      let after ← (changes (lastValue 0 first) second).mapM Sample.toBucket?
      return before ++ after) := by
  rw [buckets?, changes_append, List.mapM_append]
  rfl

/-- Once a bound cannot be read, no later line mends it. -/
theorem buckets?_append_eq_none {first : List Sample} (second : List Sample)
    (hnone : buckets? first = none) : buckets? (first ++ second) = none := by
  rw [buckets?_append, hnone]
  rfl

end Run

namespace Block

/-- The records of the samples below a header that pass a filter. -/
def recordsOf? (name : Text) : MetricType → (passing : List Sample) → Option (List Record)
  | .histogram, passing =>
    if ∀ sample ∈ passing, sample.IsComponentOf name then
      (Run.split (passing.filter (·.IsBucketOf name))).mapM (Run.record? name)
    else
      none
  | .summary, passing => if passing = [] then some [] else none
  | .counter, passing | .gauge, passing | .untyped, passing => some (passing.map Sample.toRecord)

/-- The samples of a block that pass a filter. -/
def passing (block : Block) (filter : SampleFilter) : List Sample :=
  block.samples.filter filter.accepts

/-- The records of a block. -/
def records? (block : Block) (filter : SampleFilter) : Option (List Record) :=
  recordsOf? block.name block.type (block.passing filter)

/-- The runs of a histogram block. -/
def runs (block : Block) (filter : SampleFilter) : List (List Sample) :=
  Run.split ((block.passing filter).filter (·.IsBucketOf block.name))

end Block

namespace Page

/-- The records of the samples before the first header. -/
def leadingRecords (page : Page) (filter : SampleFilter) : List Record :=
  (page.leading.filter filter.accepts).map Sample.toRecord

/-- The records of a page, block by block. -/
def records? (page : Page) (filter : SampleFilter) : Option (List Record) := do
  let records ← page.blocks.mapM (·.records? filter)
  return page.leadingRecords filter ++ records.flatten

/-- What a page has to satisfy so that all its samples can be read. -/
structure Readable (page : Page) (filter : SampleFilter) : Prop where
  /-- No sample of a summary passes the filter. -/
  summaries : ∀ block ∈ page.blocks, block.type = .summary → block.passing filter = []
  /-- Each sample of a histogram that passes the filter is a part of it. -/
  components : ∀ block ∈ page.blocks, block.type = .histogram →
    ∀ sample ∈ block.passing filter, sample.IsComponentOf block.name
  /-- Each bucket line that changes the count has a bound that leaves values below it: one less
  than the bound is finite and positive. -/
  bounds : ∀ block ∈ page.blocks, block.type = .histogram →
    ∀ run ∈ block.runs filter, ∀ sample ∈ Run.changes 0 run,
      ∃ bound, sample.bound? = some bound ∧ (bound - 1).isFinite = true ∧
        Binary64.lt 0 (bound - 1) = true

/-- The values just below the bounds of bucket lines that change the count lie before the end of the
search for octaves. -/
def OctavesFound (page : Page) (filter : SampleFilter) : Prop :=
  ∀ block ∈ page.blocks, block.type = .histogram →
    ∀ run ∈ block.runs filter, ∀ sample ∈ Run.changes 0 run,
      ∀ bound ∈ sample.bound?, Binary64.lt (bound - 1) Bucket.searchEnd = true

/-- The bucket lines that pass the filter report finite counts. -/
def FiniteCounts (page : Page) (filter : SampleFilter) : Prop :=
  ∀ block ∈ page.blocks, block.type = .histogram →
    ∀ sample ∈ block.passing filter, sample.IsBucketOf block.name → sample.value.isFinite = true

instance (page : Page) (filter : SampleFilter) : Decidable (page.FiniteCounts filter) :=
  inferInstanceAs (Decidable (∀ block ∈ page.blocks, block.type = .histogram → _))

end Page

/-! ### When the records of a page exist -/

theorem isSome_mapM_iff {α β : Type} {f : α → Option β} {items : List α} :
    (items.mapM f).isSome = true ↔ ∀ item ∈ items, (f item).isSome = true := by
  induction items with
  | nil => simp
  | cons item rest ih =>
    rw [List.forall_mem_cons, ← ih, List.mapM_cons]
    cases f item <;> cases rest.mapM f <;> simp

/-- There is a record exactly if every bound less one has a bucket. -/
theorem Record.isSome_ofCumulative_iff {name : Text} {buckets : List CumulativeBucket} :
    (Record.ofCumulative name buckets).toOption.isSome = true ↔
      ∀ bucket ∈ buckets, Bucket.isCounted (bucket.bound - 1) = true := by
  have hoccupancy := CumulativeBucket.forall_occupancy
    (p := fun value => ∃ bucket, Bucket.ofValue value = .ok bucket) 0 buckets
  simp only [← Bucket.exists_ofValue_iff]
  rw [← hoccupancy,
    ← @BucketCounts.exists_addAll_iff .empty, ofCumulative]
  cases BucketCounts.empty.addAll (CumulativeBucket.occupancy 0 buckets) <;>
    simp [bind, Except.bind, Except.toOption, pure, Except.pure]

namespace Run

/-- Samples make a histogram exactly if each has a bound that leaves a bucket below it. -/
theorem isSome_ofSamples_iff {name : Text} {samples : List Sample} :
    ((samples.mapM Sample.toBucket?).bind fun buckets =>
      (Record.ofCumulative name buckets).toOption).isSome = true ↔
      ∀ sample ∈ samples,
        ∃ bound, sample.bound? = some bound ∧ Bucket.isCounted (bound - 1) = true := by
  have hbuckets (samples : List Sample) (p : Binary64 → Prop) :
      (∃ buckets, samples.mapM Sample.toBucket? = some buckets ∧ ∀ bucket ∈ buckets, p bucket.bound) ↔
        ∀ sample ∈ samples, ∃ bound, sample.bound? = some bound ∧ p bound := by
    induction samples with
    | nil => simp
    | cons sample rest ih =>
      rw [List.forall_mem_cons, ← ih, List.mapM_cons, Sample.toBucket?]
      cases sample.bound? <;> cases rest.mapM Sample.toBucket? <;> simp
  rw [← hbuckets]
  cases samples.mapM Sample.toBucket? with
  | none => simp
  | some buckets => simpa using Record.isSome_ofCumulative_iff

/-- A run has a record if the lines that change its count have bounds with buckets. The other lines
may have any bound or none. -/
theorem isSome_record?_iff {name : Text} {run : List Sample} :
    (record? name run).isSome = true ↔ ∀ sample ∈ changes 0 run,
      ∃ bound, sample.bound? = some bound ∧ Bucket.isCounted (bound - 1) = true :=
  isSome_ofSamples_iff

end Run

/-- What makes a block readable: no sample below a summary, none but components below a histogram,
and bounds with buckets wherever a count changes. -/
theorem Block.isSome_records?_iff {block : Block} {filter : SampleFilter} :
    (block.records? filter).isSome = true ↔
      (block.type = .summary → block.passing filter = []) ∧
      (block.type = .histogram → ∀ sample ∈ block.passing filter, sample.IsComponentOf block.name) ∧
      (block.type = .histogram → ∀ run ∈ block.runs filter, ∀ sample ∈ Run.changes 0 run,
        ∃ bound, sample.bound? = some bound ∧ Bucket.isCounted (bound - 1) = true) := by
  obtain ⟨name, type, samples⟩ := block
  cases type with
  | counter => simp [records?, recordsOf?]
  | gauge => simp [records?, recordsOf?]
  | untyped => simp [records?, recordsOf?]
  | summary =>
    simp only [records?, recordsOf?]
    split <;> simp_all
  | histogram =>
    simp only [records?, recordsOf?, runs]
    split
    · next hall =>
      simp only [isSome_mapM_iff, Run.isSome_record?_iff]
      exact ⟨fun hbounds => ⟨(fun h => by cases h), fun _ => hall, fun _ => hbounds⟩, fun h => h.2.2 trivial⟩
    · next hforeign => simp [hforeign]

/-- The bound of a line has a bucket if it is beyond one and finite and its search ends. -/
theorem Sample.bound_isCounted_iff {sample : Sample} :
    (∃ bound, sample.bound? = some bound ∧ Bucket.isCounted (bound - 1) = true) ↔
      (∃ bound, sample.bound? = some bound ∧ (bound - 1).isFinite = true ∧
        Binary64.lt 0 (bound - 1) = true) ∧
      ∀ bound ∈ sample.bound?, Binary64.lt (bound - 1) Bucket.searchEnd = true := by
  simp only [Bucket.isCounted_eq_true_iff]
  cases sample.bound? with
  | none => simp
  | some bound => simp [and_assoc]

/-- A page has records exactly if it is readable and the octaves of all that it counts are found. -/
theorem Page.isSome_records?_iff {page : Page} {filter : SampleFilter} :
    (page.records? filter).isSome = true ↔ page.Readable filter ∧ page.OctavesFound filter := by
  have hblocks : (page.records? filter).isSome = true ↔
      ∀ block ∈ page.blocks, (block.records? filter).isSome = true := by
    rw [← isSome_mapM_iff, records?]
    cases page.blocks.mapM (·.records? filter) <;> simp
  rw [hblocks]
  simp only [Block.isSome_records?_iff, Sample.bound_isCounted_iff]
  constructor
  · intro hblock
    refine ⟨⟨fun block hmem => (hblock block hmem).1, fun block hmem => (hblock block hmem).2.1, ?_⟩, ?_⟩
    · intro block hmem htype run hrun sample hsample
      exact ((hblock block hmem).2.2 htype run hrun sample hsample).1
    · intro block hmem htype run hrun sample hsample
      exact ((hblock block hmem).2.2 htype run hrun sample hsample).2
  · rintro ⟨hreadable, hfound⟩ block hmem
    refine ⟨hreadable.summaries block hmem, hreadable.components block hmem, ?_⟩
    intro htype run hrun sample hsample
    exact ⟨hreadable.bounds block hmem htype run hrun sample hsample,
      hfound block hmem htype run hrun sample hsample⟩

end ExporterAudit
