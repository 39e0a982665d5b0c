import ExporterAudit.FormEncoding
import ExporterAudit.Network
import ExporterAudit.Scrape

/-!
The metrics page of an exporter. Reserved parameters of the query select a family, leave out help
headers and split sums by shard; all others are labels with a pattern for their values.
-/

namespace ExporterAudit

/-- What to ask of a metrics page. -/
structure MetricsQuery where
  /-- The name of a family, with its group. -/
  name : Option Text := none
  /-- Labels and the patterns of their values. -/
  labels : Labels := .empty
  withHelp : Bool := true
  /-- Whether the exporter sums the series of its shards. -/
  aggregate : Bool := true

namespace MetricsQuery

def nameParameter : Text := "__name__"

def helpParameter : Text := "__help__"

def aggregateParameter : Text := "__aggregate__"

/-- The parameters of a query; a parameter that is set again keeps its place. -/
def parameters (query : MetricsQuery) : List (Text × Text) :=
  let named := query.name.toList.map (nameParameter, ·)
  let labelled := query.labels.entries.foldl (fun pairs (label, pattern) =>
    FormEncoding.set label pattern pairs) named
  let helped := if query.withHelp then labelled else FormEncoding.set helpParameter "false" labelled
  if query.aggregate then helped else FormEncoding.set aggregateParameter "false" helped

/-- The query as it stands in an address. -/
def toText (query : MetricsQuery) : Text :=
  FormEncoding.write query.parameters

end MetricsQuery

/-- The metrics page of an exporter. -/
structure Endpoint where
  baseUrl : Text
  path : Text := "/metrics"
  timeoutMs : Binary64 := Timeout.standardMs
  space : Namespace := .standard

namespace Endpoint

/-- The address for a query. -/
def url (endpoint : Endpoint) (query : MetricsQuery) : Text :=
  let page := withoutEndSlashes endpoint.baseUrl ++ endpoint.path
  match query.toText with
  | [] => page
  | parameters => page ++ '?' :: parameters

/-- Fetches the page for a query. -/
def fetch (endpoint : Endpoint) (network : Network) (query : MetricsQuery) : Session Scrape := do
  let body ← network.fetch endpoint.timeoutMs { url := endpoint.url query, accept := none }
  return .ofBody body endpoint.space

end Endpoint

end ExporterAudit
