import ExporterAudit.Document

/-!
Failures as causes. Each cause has a code, a category that says where it came from, a message and,
for most, details as data. A computation that does not end is told here too, as a case of its own
that nothing catches.
-/

namespace ExporterAudit

/-- Where a failure originated. -/
inductive Category where
  /-- The exposition text does not follow the format. -/
  | parse
  /-- A caller broke an input contract. -/
  | contract
  /-- A definitions file or a setting is invalid. -/
  | config
  /-- The exporter, its endpoint or the query server misbehaved. -/
  | io
deriving DecidableEq, Repr

def Category.name : Category → Text
  | .parse => "parse"
  | .contract => "contract"
  | .config => "config"
  | .io => "io"

/-- The codes of failures. -/
inductive ErrorCode where
  | malformedLine
  | unknownHistogramComponent
  | missingLabel
  | unsupportedType
  | invalidBucketValue
  | invalidDefinition
  | invalidConfig
  | endpointError
  | invalidResponse
  | exporterFailed
deriving DecidableEq, Repr

namespace ErrorCode

def all : List ErrorCode :=
  [.malformedLine, .unknownHistogramComponent, .missingLabel, .unsupportedType,
    .invalidBucketValue, .invalidDefinition, .invalidConfig, .endpointError, .invalidResponse,
    .exporterFailed]

def name : ErrorCode → Text
  | .malformedLine => "MALFORMED_LINE"
  | .unknownHistogramComponent => "UNKNOWN_HISTOGRAM_COMPONENT"
  | .missingLabel => "MISSING_LABEL"
  | .unsupportedType => "UNSUPPORTED_TYPE"
  | .invalidBucketValue => "INVALID_BUCKET_VALUE"
  | .invalidDefinition => "INVALID_DEFINITION"
  | .invalidConfig => "INVALID_CONFIG"
  | .endpointError => "ENDPOINT_ERROR"
  | .invalidResponse => "INVALID_RESPONSE"
  | .exporterFailed => "EXPORTER_FAILED"

def category : ErrorCode → Category
  | .malformedLine | .unknownHistogramComponent | .missingLabel | .unsupportedType => .parse
  | .invalidBucketValue => .contract
  | .invalidDefinition | .invalidConfig => .config
  | .endpointError | .invalidResponse | .exporterFailed => .io

/-- What a code stands for, in a few words. -/
def summary : ErrorCode → Text
  | .malformedLine => "Malformed exposition line"
  | .unknownHistogramComponent => "Unknown histogram component"
  | .missingLabel => "Missing label"
  | .unsupportedType => "Unsupported metric type"
  | .invalidBucketValue => "Bucket value must be positive and finite"
  | .invalidDefinition => "Invalid metric definition"
  | .invalidConfig => "Invalid configuration"
  | .endpointError => "Endpoint request failed"
  | .invalidResponse => "Invalid response"
  | .exporterFailed => "Exporter failed"

def ofName? (name : Text) : Option ErrorCode :=
  all.find? (·.name == name)

/-- The category of a code by name; a code that is not listed counts as a failure of an outside
party. -/
def categoryOf (name : Text) : Category :=
  match ofName? name with
  | some code => code.category
  | none => .io

/-- The summary of a code by name; a code that is not listed stands for itself. -/
def summaryOf (name : Text) : Text :=
  match ofName? name with
  | some code => code.summary
  | none => name

end ErrorCode

/-- A field of a document or setting, and what is wrong with it. -/
structure Issue where
  field : Text
  reason : Text
deriving DecidableEq

namespace Issue

def toText (issue : Issue) : Text :=
  issue.field ++ ": " ++ issue.reason

/-- A list of issues in one line. -/
def listText (issues : List Issue) : Text :=
  Text.join "; " (issues.map toText)

def toDocument (issue : Issue) : Document :=
  .ofTexts [("field", issue.field), ("reason", issue.reason)]

/-- Details that hold a list of issues. -/
def listDetails (issues : List Issue) : Document :=
  .ofPairs [("issues", .list (issues.map toDocument))]

end Issue

/-- Why a definitions file is refused. -/
inductive DefinitionFault where
  /-- The document cannot be read; line and column count from one. -/
  | unreadableDocument (reason : Text) (place : Option (Nat × Nat))
  /-- The document has not the shape of a definitions file. -/
  | wrongShape (issues : List Issue)
  /-- The file cannot be read. -/
  | unreadableFile (path reason : Text)
  /-- A counter or gauge needs exactly one value. -/
  | valueCount (type metric : Text) (count : Nat)
  /-- Any other reason, with its details. -/
  | stated (reason : Text) (details : Option Document)

/-- Why an exporter did not start. -/
inductive ExporterFault where
  /-- It exited before it was ready, with a code or by a signal. -/
  | exited (code : Option Binary64) (signal : Option Text)
  /-- It could not be run. -/
  | broken (message path : Text)
  /-- It was not ready in time. -/
  | silent (timeoutMs : Binary64)
  /-- Its output cannot be read. -/
  | noOutput
  /-- Any other reason, with its details. -/
  | stated (reason : Text) (details : Option Document)

/-- What can go wrong. -/
inductive Failure where
  | malformedLine (line : Text) (reason : Text)
  | unknownHistogramComponent (histogram line : Text)
  | missingLabel (label metric : Text)
  | unsupportedType (type : Text)
  | invalidBucketValue (value : Binary64)
  | invalidDefinition (fault : DefinitionFault)
  | invalidConfig (issues : List Issue)
  /-- A page was not given; there is a status if there was a response, which may lack it. -/
  | endpointError (url : Text) (status : Option (Option Binary64)) (reason : Text)
  | invalidResponse (source reason : Text)
  | exporterFailed (fault : ExporterFault)
  /-- A failure that its raiser words itself. -/
  | stated (code message : Text)
  /-- A failure without a code. -/
  | crash (message : Text)
  /-- Nothing that is raised: the search for the octave of a value goes on for ever. Who waits for
  it waits for ever too, so there is no message to be read. -/
  | endless (value : Binary64)

namespace DefinitionFault

def message : DefinitionFault → Text
  | .unreadableDocument reason (some (line, column)) =>
    "Invalid YAML at line " ++ Text.ofNat line ++ ", column " ++ Text.ofNat column ++ ": " ++ reason
  | .unreadableDocument reason none => "Invalid YAML: " ++ reason
  | .wrongShape issues => Issue.listText issues
  | .unreadableFile path reason => "Cannot read definitions file '" ++ path ++ "': " ++ reason
  | .valueCount type metric count =>
    type ++ " '" ++ metric ++ "' must have exactly one value, got " ++ Text.ofNat count
  | .stated reason _ => reason

def details : DefinitionFault → Option Document
  | .unreadableDocument _ (some (line, column)) =>
    some (.ofPairs [("line", .number (.ofNat line)), ("column", .number (.ofNat column))])
  | .unreadableDocument _ none => none
  | .wrongShape issues => some (Issue.listDetails issues)
  | .unreadableFile path _ => some (.ofTexts [("path", path)])
  | .valueCount .. => none
  | .stated _ details => details

end DefinitionFault

namespace ExporterFault

def reason : ExporterFault → Text
  | .exited _ _ => "exited before becoming ready"
  | .broken message _ => message
  | .silent timeoutMs => "not ready after " ++ timeoutMs.toText ++ "ms"
  | .noOutput => "stdout is not available"
  | .stated reason _ => reason

def details : ExporterFault → Option Document
  | .exited code signal =>
    let code := match code with
      | some code => .number code
      | none => .null
    let signal := match signal with
      | some signal => .text signal
      | none => .null
    some (.ofPairs [("code", code), ("signal", signal)])
  | .broken _ path => some (.ofTexts [("path", path)])
  | .silent _ | .noOutput => none
  | .stated _ details => details

end ExporterFault

namespace Failure

/-- Whether a computation does not end, so that nothing after it is reached. -/
def isEndless : Failure → Bool
  | .endless _ => true
  | _ => false

theorem isEndless_eq_true_iff {failure : Failure} :
    failure.isEndless = true ↔ ∃ value, failure = .endless value := by
  cases failure <;> simp [isEndless]

/-- The code of a failure; a crash has none. -/
def code? : Failure → Option Text
  | .malformedLine .. => some ErrorCode.malformedLine.name
  | .unknownHistogramComponent .. => some ErrorCode.unknownHistogramComponent.name
  | .missingLabel .. => some ErrorCode.missingLabel.name
  | .unsupportedType .. => some ErrorCode.unsupportedType.name
  | .invalidBucketValue .. => some ErrorCode.invalidBucketValue.name
  | .invalidDefinition .. => some ErrorCode.invalidDefinition.name
  | .invalidConfig .. => some ErrorCode.invalidConfig.name
  | .endpointError .. => some ErrorCode.endpointError.name
  | .invalidResponse .. => some ErrorCode.invalidResponse.name
  | .exporterFailed .. => some ErrorCode.exporterFailed.name
  | .stated code _ => some code
  | .crash _ | .endless _ => none

/-- The category of a failure; a crash has none. -/
def category? (failure : Failure) : Option Category :=
  failure.code?.map ErrorCode.categoryOf

def message : Failure → Text
  | .malformedLine line [] => "Malformed metric line: " ++ line
  | .malformedLine line reason => "Malformed metric line (" ++ reason ++ "): " ++ line
  | .unknownHistogramComponent histogram line =>
    "Unknown histogram value for '" ++ histogram ++ "': " ++ line
  | .missingLabel label metric => "Metric '" ++ metric ++ "' is missing label '" ++ label ++ "'"
  | .unsupportedType type => "Unsupported type: " ++ type
  | .invalidBucketValue value =>
    "Cannot map " ++ value.toText ++ " to a bucket: value must be positive and finite"
  | .invalidDefinition fault => fault.message
  | .invalidConfig issues => Issue.listText issues
  | .endpointError url status reason =>
    let outcome : Text := match status with
      | some (some status) => " returned HTTP " ++ status.toText
      | some none => " returned HTTP null"
      | none => " failed"
    let suffix : Text := if reason = [] then [] else ": " ++ reason
    "GET " ++ url ++ outcome ++ suffix
  | .invalidResponse source reason => "Invalid response from " ++ source ++ ": " ++ reason
  | .exporterFailed fault => "Exporter failed: " ++ fault.reason
  | .stated _ message => message
  | .crash message => message
  | .endless _ => []

def details : Failure → Option Document
  | .malformedLine line _ => some (.ofTexts [("line", line)])
  | .unknownHistogramComponent histogram line =>
    some (.ofTexts [("histogram", histogram), ("line", line)])
  | .missingLabel label metric => some (.ofTexts [("label", label), ("metric", metric)])
  | .unsupportedType type => some (.ofTexts [("type", type)])
  | .invalidBucketValue value => some (.ofPairs [("value", .number value)])
  | .invalidDefinition fault => fault.details
  | .invalidConfig issues => some (Issue.listDetails issues)
  | .endpointError url status _ =>
    let status := status.map fun status => ("status".toList, (status.map .number).getD .null)
    some (.ofPairs (("url", .text url) :: status.toList))
  | .invalidResponse source _ => some (.ofTexts [("source", source)])
  | .exporterFailed fault => fault.details
  | .stated .. => none
  | .crash _ | .endless _ => none

end Failure

end ExporterAudit
