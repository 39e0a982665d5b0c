import ExporterAudit.Line
import ExporterAudit.Record

/-!
Exposition text read line by line. The samples of a histogram span several lines below their type
header, so the reader carries a state: between histograms each sample is a record, and inside one
the bucket lines of a series are collected until the next type header, another series or the end.
-/

namespace ExporterAudit

/-- Which samples count: those whose name starts with `name` and whose labels equal `labels`; a
missing member lets every sample pass. -/
structure SampleFilter where
  name : Option Text := none
  labels : Option Labels := none

namespace SampleFilter

def accepts (filter : SampleFilter) (sample : Sample) : Bool :=
  filter.name.all (Text.startsWith sample.name ·) && filter.labels.all (sample.labels.same ·)

end SampleFilter

namespace Exposition

/-- The lines collected for one series. -/
structure Accumulator where
  /-- The name that the type header declares. -/
  name : Text
  /-- The key of the series without the bound label; `none` before the first bucket line. -/
  series : Option Text := none
  buckets : List CumulativeBucket := []
  /-- As reported; not compared with the buckets. -/
  sum : Binary64 := 0
  /-- As reported; not compared with the buckets. -/
  count : Binary64 := 0
  /-- Whether a bucket line passed the filter. -/
  touched : Bool := false
deriving DecidableEq

/-- The types whose samples are collected. -/
inductive CollectedType where
  | histogram
  | summary
deriving DecidableEq

/-- What the reader knows between two lines. -/
inductive State where
  /-- Each sample is a record; the type is the last one declared. -/
  | idle (type : Option MetricType)
  /-- Samples belong to the last type header. -/
  | collecting (type : CollectedType) (accumulator : Accumulator)
deriving DecidableEq

/-- The state before the first line. -/
def State.initial : State := .idle none

/-- The state that a type header leads to. -/
def State.ofHeader (name : Text) : MetricType → State
  | .histogram => .collecting .histogram { name }
  | .summary => .collecting .summary { name }
  | type => .idle (some type)

/-- A state, and the records completed on the way to it. -/
structure Transition where
  state : State
  emitted : List Record := []
deriving DecidableEq

/-- The record of the series being collected, if a bucket line of it was kept. -/
def flush : State → Except Failure (List Record)
  | .collecting _ { touched := true, name, buckets, .. } => do
    let record ← Record.ofCumulative name buckets
    return [record]
  | _ => .ok []

/-- The label that holds the upper bound of a bucket line. -/
def boundLabel : Text := "le"

/-- The key of the series that a bucket line belongs to. -/
def seriesKey (sample : Sample) : Text :=
  (sample.labels.without [boundLabel]).key

/-- The upper bound of a bucket line. -/
def bound (sample : Sample) (raw : Text) : Except Failure Binary64 :=
  match sample.labels.get? boundLabel with
  | none => .error (.missingLabel boundLabel sample.name)
  | some written =>
    match Line.value? written with
    | some bound => .ok bound
    | none => .error (.malformedLine raw ("invalid le '" ++ written ++ "'"))

/-- The count of the last bucket, zero before the first. -/
def Accumulator.lastCount (accumulator : Accumulator) : Binary64 :=
  match accumulator.buckets.getLast? with
  | some bucket => bucket.count
  | none => 0

/-- Collects a bucket line. A line that repeats the last count holds no observations and is
dropped. -/
def Accumulator.add (accumulator : Accumulator) (sample : Sample) (raw : Text) :
    Except Failure Accumulator :=
  let collected := { accumulator with series := some (seriesKey sample), touched := true }
  if (sample.value - accumulator.lastCount).equals 0 then
    .ok collected
  else do
    let bound ← bound sample raw
    let bucket : CumulativeBucket := { bound, count := sample.value }
    return { collected with buckets := accumulator.buckets ++ [bucket] }

/-- A bucket line of another series completes the one being collected. -/
def addBucket (type : CollectedType) (accumulator : Accumulator) (sample : Sample) (raw : Text) :
    Except Failure Transition := do
  let continues := accumulator.series.all (· == seriesKey sample)
  let emitted ← if continues then .ok [] else flush (.collecting type accumulator)
  let current := if continues then accumulator else { name := accumulator.name }
  let next ← current.add sample raw
  return { state := .collecting type next, emitted }

/-- A sample that passes the filter. -/
def acceptSample (state : State) (sample : Sample) (raw : Text) : Except Failure Transition :=
  match state with
  | .idle _ =>
    .ok { state, emitted := [.scalar sample.name sample.value sample.labels] }
  | .collecting .summary _ => .error (.unsupportedType MetricType.summary.name)
  | .collecting .histogram accumulator =>
    if sample.name = accumulator.name ++ "_bucket" then
      addBucket .histogram accumulator sample raw
    else if sample.name = accumulator.name ++ "_sum" then
      .ok { state := .collecting .histogram { accumulator with sum := sample.value } }
    else if sample.name = accumulator.name ++ "_count" then
      .ok { state := .collecting .histogram { accumulator with count := sample.value } }
    else
      .error (.unknownHistogramComponent accumulator.name raw)

/-- The state after one classified line; `raw` is the line as it was given. -/
def advance (state : State) (line : Line) (raw : Text) (filter : SampleFilter) :
    Except Failure Transition :=
  match line with
  | .blank | .comment _ | .help _ _ => .ok { state }
  | .type name type => do
    let emitted ← flush state
    return { state := State.ofHeader name type, emitted }
  | .sample sample =>
    if filter.accepts sample then acceptSample state sample raw else .ok { state }

/-- The records completed before the end or the failure, and the failure if there is one. -/
structure Outcome where
  records : List Record
  failure : Option Failure

namespace Outcome

def ofRecords : Except Failure (List Record) → Outcome
  | .ok records => ⟨records, none⟩
  | .error failure => ⟨[], some failure⟩

/-- An outcome after records that came before it. -/
def after (records : List Record) (outcome : Outcome) : Outcome :=
  { outcome with records := records ++ outcome.records }

/-- The records of an outcome without failure. -/
def toExcept (outcome : Outcome) : Except Failure (List Record) :=
  match outcome.failure with
  | some failure => .error failure
  | none => .ok outcome.records

end Outcome

/-- Reads and applies one line as it was given. -/
def step (filter : SampleFilter) (state : State) (raw : Text) : Except Failure Transition := do
  let line ← Line.read raw
  advance state line raw filter

/-- Reads lines from a state on; the end completes the last series. -/
def readFrom (filter : SampleFilter) (state : State) : (lines : List Text) → Outcome
  | [] => .ofRecords (flush state)
  | raw :: rest =>
    match step filter state raw with
    | .error failure => ⟨[], some failure⟩
    | .ok transition => .after transition.emitted (readFrom filter transition.state rest)

/-- Reads lines of exposition text into records. -/
def read (lines : List Text) (filter : SampleFilter) : Outcome :=
  readFrom filter .initial lines

end Exposition

end ExporterAudit
