import ExporterAudit.Scrape
import ExporterAudit.Shape
import ExporterAudit.Yaml.Stream

/-!
Definitions files. They declare the metrics of an exporter with the values that it reports, so the
records to expect of it are known without asking it.
-/

namespace ExporterAudit

/-- A type that a definition can give its metric. -/
inductive DefinedType where
  | counter
  | gauge
  | histogram
  | summary
deriving DecidableEq, Repr

namespace DefinedType

def all : List DefinedType := [.counter, .gauge, .histogram, .summary]

def name : DefinedType → Text
  | .counter => "counter"
  | .gauge => "gauge"
  | .histogram => "histogram"
  | .summary => "summary"

end DefinedType

/-- One declared metric. -/
structure Definition where
  name : Text
  type : DefinedType
  values : List Binary64
  labels : Labels
deriving DecidableEq

namespace Definition

/-- A declared value: a number, or a text that stands for one. -/
def valueShape : Shape Binary64
  | some (.number .nan) => .refuse "Invalid input"
  | some (.number value) => .ok value
  | some (.text text) =>
    let numeral := text.trim
    if numeral = [] then
      .refuse "Invalid input"
    else
      match Binary64.ofText? numeral with
      | some value => .ok value
      | none => .refuse ("'" ++ numeral ++ "' is not a number")
  | none => .refuse "Required"
  | some _ => .refuse "Invalid input"

/-- A label value: numbers and truth values stand for their texts. -/
def labelShape : Shape Text
  | some (.text text) => .ok text
  | some (.number .nan) => .refuse "Invalid input"
  | some (.number value) => .ok value.toText
  | some (.bool true) => .ok "true"
  | some (.bool false) => .ok "false"
  | none => .refuse "Required"
  | some _ => .refuse "Invalid input"

/-- A metric of the list. -/
def shape : Shape Definition :=
  .object fun entries =>
    Definition.mk
      <$> Shape.field entries "name" .nonemptyText
      <*> Shape.field entries "type" (.choice (DefinedType.all.map fun type => (type.name, type)))
      <*> Shape.field entries "values" (.nonemptyList valueShape)
      <*> Shape.field entries "labels" (.withDefault .empty (.labels labelShape))

/-- A definitions file. -/
def fileShape : Shape (List Definition) :=
  .object fun entries => Shape.field entries "metrics" (.list shape)

/-- The definitions of a data tree, `none` where nothing was written. -/
def ofDocument (document : Option Document) : Except Failure (List Definition) :=
  (fileShape document).toExcept.mapError fun issues => .invalidDefinition (.wrongShape issues)

/-- How deep collections stand in each other in a definitions file: the file, its metrics, each of
them, its values and its labels. -/
def documentDepth : Nat := 5

/-- Why a definitions file cannot be read. -/
def unreadable : Yaml.Fault → Failure
  | .refused reason place => .invalidDefinition (.unreadableDocument reason place)
  | .numberTagged => .crash "data.toLowerCase is not a function"

/-- The definitions of a YAML text. -/
def ofText (text : Text) : Except Failure (List Definition) := do
  ofDocument (← (Yaml.read documentDepth text).mapError unreadable)

/-- A definition as it stands in a file. -/
def toDocument (definition : Definition) : Document :=
  .ofPairs [
    ("name", .text definition.name),
    ("type", .text definition.type.name),
    ("values", .list (definition.values.map .number)),
    ("labels", .map (definition.labels.entries.map fun (name, value) => (name, .text value)))]

/-- A definitions file that holds the given definitions. -/
def fileDocument (definitions : List Definition) : Document :=
  .ofPairs [("metrics", .list (definitions.map toDocument))]

/-- The record to expect under a name. A counter or gauge has its one value and its labels, a
histogram is rebuilt from its raw values and has no labels. -/
def toRecord (definition : Definition) (name : Text) : Except Failure Record :=
  match definition.type, definition.values with
  | .counter, [value] | .gauge, [value] => .ok (.scalar name value definition.labels)
  | .counter, values | .gauge, values =>
    .error (.invalidDefinition
      (.valueCount definition.type.name definition.name values.length))
  | .histogram, values => do
    return .histogram name (← BucketCounts.ofValues values)
  | .summary, _ => .error (.unsupportedType DefinedType.summary.name)

/-- The definitions whose labels are exactly the given ones. -/
def selected (definitions : List Definition) (labels : Labels) : List Definition :=
  definitions.filter fun definition => definition.labels.same labels

/-- The record to expect on a page. -/
def expectedRecord (definition : Definition) (space : Namespace) : Except Failure Record :=
  definition.toRecord (space.qualifiedName definition.name)

/-- The records to expect for the definitions that have exactly the given labels. -/
def expectedRecords (definitions : List Definition) (space : Namespace) (labels : Labels) :
    Except Failure (List Record) :=
  (selected definitions labels).mapM (expectedRecord · space)

end Definition

end ExporterAudit
