import ExporterAudit.FormEncoding
import ExporterAudit.Json
import ExporterAudit.Network
import ExporterAudit.Record
import ExporterAudit.Shape

/-!
A server that scrapes the exporter and answers instant queries. Its numbers are texts, and a
histogram comes as rows of native buckets with their own, not cumulative, counts.
-/

namespace ExporterAudit

/-- A row of a native histogram. -/
structure NativeBucket where
  /-- Which of the bounds belong to the bucket. -/
  rule : Binary64
  lower : Binary64
  upper : Binary64
  count : Binary64

namespace NativeBucket

/-- The histogram of rows; each counts for the bucket of the greatest value below its upper
bound. -/
def toCounts (rows : List NativeBucket) : Except Failure BucketCounts :=
  BucketCounts.empty.addAll (rows.map fun row => (row.upper - 1, row.count))

end NativeBucket

/-- What an instant query gives for one series. -/
structure QuerySample where
  value : Option Binary64
  histogram : Option (List NativeBucket)

/-- A server that answers instant queries. -/
structure QueryServer where
  baseUrl : Text
  timeoutMs : Binary64 := Timeout.standardMs

namespace QueryServer

/-- A number given as a text. -/
def numeral : Shape Binary64 := fun place =>
  match Shape.text place with
  | .bad problems => .bad problems
  | .ok text =>
    match Binary64.ofText? text with
    | some value => if text.trim = [] then refused text else .ok value
    | none => refused text
where
  refused (text : Text) : Checked Binary64 :=
    .refuse ("'" ++ text ++ "' is not a number")

/-- A list of exactly as many items as a tuple has parts. -/
def tuple {α : Type} (size : Nat) (read : List Document → Checked α) : Shape α
  | some (.list items) =>
    if items.length < size then
      .refuse ("Array must contain at least " ++ Text.ofNat size ++ " element(s)")
    else if size < items.length then
      .bad (⟨[], "Array must contain at most " ++ Text.ofNat size ++ " element(s)"⟩ ::
        problems (read items))
    else
      read items
  | place => Shape.unexpected "array" place
where
  problems : Checked α → List Problem
    | .ok _ => []
    | .bad problems => problems

/-- The part of a tuple at a position. -/
def part {α : Type} (items : List Document) (position : Nat) (shape : Shape α) : Checked α :=
  (shape items[position]?).under (Text.ofNat position)

def bucketShape : Shape NativeBucket :=
  tuple 4 fun items =>
    NativeBucket.mk <$> part items 0 .number <*> part items 1 numeral <*> part items 2 numeral
      <*> part items 3 numeral

def histogramShape : Shape (List NativeBucket) :=
  .object fun entries => Shape.field entries "buckets" (.withDefault [] (.list bucketShape))

/-- A time and what stands for that time. -/
def timed {α : Type} (shape : Shape α) : Shape α :=
  tuple 2 fun items => Prod.snd <$> (Prod.mk <$> part items 0 .number <*> part items 1 shape)

def sampleShape : Shape QuerySample :=
  .object fun entries =>
    QuerySample.mk
      <$> Shape.field entries "value" (.optional (timed numeral))
      <*> Shape.field entries "histogram" (.optional (timed histogramShape))

/-- The samples of a response. -/
def responseShape : Shape (List QuerySample) :=
  .object fun entries =>
    Prod.snd <$> (Prod.mk
      <$> Shape.field entries "status" (.optional .text)
      <*> Shape.field entries "data" (.object fun entries =>
        Shape.field entries "result" (.list sampleShape)))

/-- What the server is called in failures. -/
def sourceName : Text := "prometheus"

def refuse {α : Type} (reason : Text) : Except Failure α :=
  .error (.invalidResponse sourceName reason)

/-- The value of the first sample of a response: a histogram where one is asked for, else a
number. -/
def valueOf (histogram : Bool) (document : Document) : Except Failure Value :=
  match (responseShape (some document)).toExcept with
  | .error (issue :: _) => refuse issue.toText
  | .error [] | .ok [] => refuse "empty result"
  | .ok (sample :: _) =>
    if histogram then
      match sample.histogram with
      | none => refuse "result has no histogram"
      | some rows => .histogram <$> NativeBucket.toCounts rows
    else
      match sample.value with
      | none => refuse "result has no value"
      | some value => .ok (.scalar value)

/-- The address of an instant query. -/
def url (server : QueryServer) (expression : Text) : Text :=
  withoutEndSlashes server.baseUrl ++ "/api/v1/query?" ++
    FormEncoding.write [("query", expression)]

/-- Asks an instant query. -/
def query (server : QueryServer) (network : Network) (expression : Text) (histogram : Bool) :
    Session Value := do
  let body ← network.fetch server.timeoutMs {
    url := server.url expression
    accept := some "application/json" }
  match Json.read? body with
  | none => Session.ofExcept (refuse "<json syntax error>")
  | some document => Session.ofExcept (valueOf histogram document)

end QueryServer

end ExporterAudit
