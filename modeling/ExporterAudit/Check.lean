import ExporterAudit.Binary64.Ascending
import ExporterAudit.Definition
import ExporterAudit.Endpoint
import ExporterAudit.QueryServer
import ExporterAudit.Report

/-!
The checks of an exporter. Each asks for pages with parameters of the query and compares what comes
back with the definitions that the exporter was started with.
-/

namespace ExporterAudit

/-- What the checks work on. -/
structure CheckContext where
  network : Network
  endpoint : Endpoint
  /-- The query server, if there is one. -/
  queryServer : Option QueryServer
  definitions : List Definition
  space : Namespace
  /-- The labels that the filtering and comparing checks select. -/
  labelFilter : Labels
  scrapeIntervalSeconds : Binary64

/-- A check. -/
inductive Check where
  /-- The page filtered by labels shows what the definitions with these labels say. -/
  | filteredRecords
  /-- Patterns select as many records as they should; the exporter sums what they match. -/
  | filteredSums
  /-- A counter of two shards is summed on request and split otherwise. -/
  | aggregation
  /-- Help headers are there unless they are not wanted. -/
  | help
  /-- The query server has what the definitions say. -/
  | serverParity
deriving DecidableEq, Repr

namespace Check

/-- All checks, in the order in which they run. -/
def all : List Check := [.filteredRecords, .filteredSums, .aggregation, .help, .serverParity]

def name : Check → Text
  | .filteredRecords => "label-filtering-sans-aggregation"
  | .filteredSums => "label-filtering-with-aggregation"
  | .aggregation => "aggregation"
  | .help => "help"
  | .serverParity => "prometheus-parity"

/-- The check of a name. -/
def ofName? (name : Text) : Option Check :=
  all.find? (·.name == name)

/-- The counter that an exporter has on each shard, with the values 1 and 2. -/
def shardedCounter : Text := "counter_1"

/-- A pattern for the label of the filtered sums, and how many records it selects. -/
structure FilterCase where
  pattern : Text
  found : Nat

/-- The label that the filtered sums select. -/
def filteredLabel : Text := "private"

/-- The patterns of the filtered sums; a sum of matching series is one record. -/
def filterCases : List FilterCase :=
  [⟨"dne", 0⟩, ⟨"404", 0⟩, ⟨"2", 1⟩, ⟨"2|3", 1⟩]

/-- All problems that the parts of a check find, in order. -/
def problemsOf {α : Type} (parts : List α) (problem? : α → Session (Option Text)) :
    Session Verdict := do
  return .ofProblems ((← parts.mapM problem?).filterMap id)

/-- The records of a page, read whole. -/
def fetchRecords (context : CheckContext) (query : MetricsQuery) (name : Option Text) :
    Session (List Record) := do
  let scrape ← context.endpoint.fetch context.network query
  Session.ofExcept (scrape.records name none).toExcept

def runFilteredRecords (context : CheckContext) : Session Verdict := do
  let actual ← fetchRecords context { labels := context.labelFilter } none
  let expected ← Session.ofExcept
    (Definition.expectedRecords context.definitions context.space context.labelFilter)
  if Record.sameRecords actual expected then
    return .passed
  else
    return .ofProblems
      ["expected " ++ Record.listText expected ++ ", got " ++ Record.listText actual]

def runFilterCase (context : CheckContext) (filterCase : FilterCase) : Session (Option Text) := do
  let labels := Labels.ofPairs [(filteredLabel, filterCase.pattern)]
  let records ← fetchRecords context { labels } none
  if records.length = filterCase.found then
    return none
  else
    return some (filteredLabel ++ "=~'" ++ filterCase.pattern ++ "': expected " ++
      Text.ofNat filterCase.found ++ " records, got " ++ Text.ofNat records.length)

/-- The name of the sharded counter in queries. -/
def counterQueryName (context : CheckContext) : Text :=
  context.space.groupName shardedCounter

/-- The numbers among records. -/
def scalarValues (records : List Record) : List Binary64 :=
  records.filterMap fun record =>
    match record.value with
    | .scalar value => some value
    | .histogram _ => none

def numbersText (separator : Text) (numbers : List Binary64) : Text :=
  Text.join separator (numbers.map Binary64.toText)

/-- What the sharded counter shows with and without aggregation. -/
def aggregationCases : List (Bool × List Binary64) := [(false, [1, 2]), (true, [3])]

def runAggregationCase (context : CheckContext) :
    (aggregationCase : Bool × List Binary64) → Session (Option Text)
  | (aggregate, expected) => do
    let query := { name := some (counterQueryName context), aggregate : MetricsQuery }
    let records ← fetchRecords context query (some shardedCounter)
    let values := Binary64.ascending (scalarValues records)
    if numbersText "," values = numbersText "," expected then
      return none
    else
      let flag : Text := if aggregate then "true" else "false"
      return some ("aggregate=" ++ flag ++ ": expected [" ++ numbersText ", " expected ++
        "], got [" ++ numbersText ", " values ++ "]")

def runHelpCase (context : CheckContext) (withHelp : Bool) : Session (Option Text) := do
  let query := { name := some (counterQueryName context), withHelp : MetricsQuery }
  let scrape ← context.endpoint.fetch context.network query
  let found ← Session.ofExcept (scrape.help shardedCounter)
  if found.isSome = withHelp then
    return none
  else if withHelp then
    return some "HELP missing when requested"
  else
    return some "HELP present when disabled"

def runParityCase (context : CheckContext) (server : QueryServer) (definition : Definition) :
    Session (Option Text) := do
  let expected ← Session.ofExcept (definition.expectedRecord context.space)
  let actual ← server.query context.network
    (context.space.qualifiedName definition.name) (definition.type = .histogram)
  if expected.value.same actual then
    return none
  else
    return some (expected.toText ++ ": Prometheus has " ++ actual.toText)

/-- How long to wait until the query server has scraped: one interval and a second. -/
def scrapeWait (context : CheckContext) : Binary64 :=
  (context.scrapeIntervalSeconds + 1) * 1000

def runServerParity (context : CheckContext) : Session Verdict :=
  match context.queryServer with
  | none => pure (.skipped (some "no Prometheus server configured"))
  | some server => do
    Session.sleep (scrapeWait context)
    problemsOf (Definition.selected context.definitions context.labelFilter)
      (runParityCase context server)

/-- What a check finds; it may fail. -/
def verdict (context : CheckContext) : Check → Session Verdict
  | .filteredRecords => runFilteredRecords context
  | .filteredSums => problemsOf filterCases (runFilterCase context)
  | .aggregation => problemsOf aggregationCases (runAggregationCase context)
  | .help => problemsOf [true, false] (runHelpCase context)
  | .serverParity => runServerParity context

/-- The result of a check; a failure counts against the exporter. -/
def run (context : CheckContext) (check : Check) : Session CheckResult := do
  match ← (check.verdict context).attempt with
  | .ok verdict => return ⟨check.name, verdict⟩
  | .error failure => return ⟨check.name, .failed (some failure.message)⟩

/-- The results of checks, one after another. -/
def runAll (context : CheckContext) (checks : List Check) : Session (List CheckResult) :=
  checks.mapM (run context)

end Check

end ExporterAudit
