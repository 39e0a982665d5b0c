import ExporterAudit.Text.Basic

/-!
The types of metrics.
-/

namespace ExporterAudit

/-- A type that a type header can declare. -/
inductive MetricType where
  | counter
  | gauge
  | histogram
  | summary
  | untyped
deriving DecidableEq, Repr

namespace MetricType

/-- All metric types, in the order in which they are listed. -/
def all : List MetricType := [.counter, .gauge, .histogram, .summary, .untyped]

def name : MetricType → Text
  | .counter => "counter"
  | .gauge => "gauge"
  | .histogram => "histogram"
  | .summary => "summary"
  | .untyped => "untyped"

/-- The type of a name. -/
def ofName? (name : Text) : Option MetricType :=
  all.find? (·.name == name)

end MetricType

end ExporterAudit
