import ExporterAudit.Endpoint
import ExporterAudit.Proofs.Network.Fetching

/-!
What a metrics query asks for can be read off the address that it is sent to: the name, the labels
with their patterns and the flags that differ from the standard, in this order. So queries that ask
for different things have different addresses, as long as no label takes the name of a reserved
parameter.
-/

namespace ExporterAudit

namespace MetricsQuery

/-- The parameters that are not labels. -/
def reservedParameters : List Text := [nameParameter, helpParameter, aggregateParameter]

/-- No label of the query has the name of a reserved parameter. -/
def Unreserved (query : MetricsQuery) : Prop :=
  ∀ entry ∈ query.labels.entries, entry.1 ∉ reservedParameters

instance (query : MetricsQuery) : Decidable query.Unreserved :=
  inferInstanceAs (Decidable (∀ entry ∈ query.labels.entries, _))

/-- A flag is told only where it is off. -/
def flagPairs (parameter : Text) (flag : Bool) : List (Text × Text) :=
  if flag then [] else [(parameter, "false")]

/-- What a query asks for, part by part. -/
def asked (query : MetricsQuery) : List (Text × Text) :=
  query.name.toList.map (nameParameter, ·) ++ query.labels.entries ++
    flagPairs helpParameter query.withHelp ++ flagPairs aggregateParameter query.aggregate

variable {query other : MetricsQuery}

/-- The labels leave the reserved parameters to what they are reserved for. -/
theorem Unreserved.not_mem_names (hunreserved : query.Unreserved) {parameter : Text}
    (hreserved : parameter ∈ reservedParameters) : parameter ∉ query.labels.entries.map Prod.fst := by
  intro hmem
  obtain ⟨entry, hentry, rfl⟩ := List.mem_map.mp hmem
  exact hunreserved entry hentry hreserved

/-- The part of a query that names a family. -/
theorem eq_nameParameter_of_mem {name : Option Text} {pair : Text × Text}
    (hmem : pair ∈ name.toList.map (nameParameter, ·)) : pair.1 = nameParameter := by
  obtain ⟨value, -, rfl⟩ := List.mem_map.mp hmem
  rfl

theorem eq_of_mem_flagPairs {parameter : Text} {flag : Bool} {pair : Text × Text}
    (hmem : pair ∈ flagPairs parameter flag) : pair.1 = parameter := by
  cases flag with
  | true => cases hmem
  | false => rw [List.mem_singleton.mp hmem]

/-- A flag is told only where it differs from the standard. -/
theorem set_flag {parameter : Text} {pairs : List (Text × Text)}
    (hnew : parameter ∉ pairs.map Prod.fst) (flag : Bool) :
    (if flag then pairs else FormEncoding.set parameter "false" pairs) =
      pairs ++ flagPairs parameter flag := by
  cases flag with
  | true => simp [flagPairs]
  | false => simpa [flagPairs] using FormEncoding.set_of_not_mem hnew "false"

/-- No part of a query replaces another. -/
theorem Unreserved.parameters_eq (hunreserved : query.Unreserved) : query.parameters = query.asked := by
  have hfresh {parameter : Text} (hreserved : parameter ∈ reservedParameters)
      (hother : parameter ≠ nameParameter) :
      parameter ∉ (query.name.toList.map (nameParameter, ·) ++ query.labels.entries).map Prod.fst := by
    rw [List.map_append, List.mem_append, not_or]
    refine ⟨fun hmem => ?_, hunreserved.not_mem_names hreserved⟩
    obtain ⟨pair, hpair, rfl⟩ := List.mem_map.mp hmem
    exact hother (eq_nameParameter_of_mem hpair)
  have hlabelled := FormEncoding.foldl_set query.labels.entries
    (query.name.toList.map (nameParameter, ·)) (by
      have hname : nameParameter ∉ query.labels.entries.map Prod.fst :=
        hunreserved.not_mem_names (by decide)
      cases query.name <;> simp [hname, query.labels.distinct])
  have hhelp : helpParameter ∉
      (query.name.toList.map (nameParameter, ·) ++ query.labels.entries).map Prod.fst :=
    hfresh (by decide) (by decide)
  have haggregate : aggregateParameter ∉
      (query.name.toList.map (nameParameter, ·) ++ query.labels.entries ++
        flagPairs helpParameter query.withHelp).map Prod.fst := by
    rw [List.map_append, List.mem_append, not_or]
    refine ⟨hfresh (by decide) (by decide), fun hmem => ?_⟩
    obtain ⟨pair, hpair, hname⟩ := List.mem_map.mp hmem
    rw [eq_of_mem_flagPairs hpair] at hname
    exact absurd hname (by decide)
  simp only [parameters, hlabelled, set_flag hhelp, set_flag haggregate, asked]

/-! ### The parts of what was asked -/

theorem filter_of_forall_name {pairs : List (Text × Text)} {parameter : Text}
    (hnames : ∀ pair ∈ pairs, pair.1 = parameter) (keep : Text → Bool) :
    pairs.filter (keep ·.1) = if keep parameter then pairs else [] := by
  cases hkeep : keep parameter with
  | true => exact List.filter_eq_self.mpr fun pair hmem => by rw [hnames pair hmem, hkeep]
  | false => exact List.filter_eq_nil_iff.mpr fun pair hmem => by simp [hnames pair hmem, hkeep]

/-- The pairs of a query, sorted out by their parameters. -/
theorem filter_asked (query : MetricsQuery) (keep : Text → Bool) :
    query.asked.filter (keep ·.1) =
      (if keep nameParameter then query.name.toList.map (nameParameter, ·) else []) ++
        query.labels.entries.filter (keep ·.1) ++
        (if keep helpParameter then flagPairs helpParameter query.withHelp else []) ++
        (if keep aggregateParameter then flagPairs aggregateParameter query.aggregate else []) := by
  rw [asked, List.filter_append, List.filter_append, List.filter_append,
    filter_of_forall_name (fun _ => eq_nameParameter_of_mem), filter_of_forall_name (fun _ => eq_of_mem_flagPairs),
    filter_of_forall_name (fun _ => eq_of_mem_flagPairs)]

theorem Unreserved.filter_labels (hunreserved : query.Unreserved) {parameter : Text}
    (hreserved : parameter ∈ reservedParameters) :
    query.labels.entries.filter (·.1 == parameter) = [] := by
  refine List.filter_eq_nil_iff.mpr fun entry hmem hname => hunreserved entry hmem ?_
  rwa [beq_iff_eq.mp hname]

theorem Unreserved.name_of_asked (hunreserved : query.Unreserved) :
    query.asked.filter (·.1 == nameParameter) = query.name.toList.map (nameParameter, ·) := by
  rw [query.filter_asked (· == nameParameter), hunreserved.filter_labels (by decide),
    if_pos (by decide), if_neg (by decide), if_neg (by decide)]
  simp

theorem Unreserved.help_of_asked (hunreserved : query.Unreserved) :
    query.asked.filter (·.1 == helpParameter) = flagPairs helpParameter query.withHelp := by
  rw [query.filter_asked (· == helpParameter), hunreserved.filter_labels (by decide),
    if_neg (by decide), if_pos (by decide), if_neg (by decide)]
  simp

theorem Unreserved.aggregate_of_asked (hunreserved : query.Unreserved) :
    query.asked.filter (·.1 == aggregateParameter) =
      flagPairs aggregateParameter query.aggregate := by
  rw [query.filter_asked (· == aggregateParameter), hunreserved.filter_labels (by decide),
    if_neg (by decide), if_neg (by decide), if_pos (by decide)]
  simp

theorem Unreserved.labels_of_asked (hunreserved : query.Unreserved) :
    query.asked.filter (!reservedParameters.contains ·.1) = query.labels.entries := by
  have hkept : query.labels.entries.filter (!reservedParameters.contains ·.1) =
      query.labels.entries :=
    List.filter_eq_self.mpr fun entry hmem => by simpa using hunreserved entry hmem
  rw [query.filter_asked (!reservedParameters.contains ·), hkept, if_neg (by decide),
    if_neg (by decide), if_neg (by decide)]
  simp

/-- A flag can be told from whether it is mentioned. -/
theorem flagPairs_inj {parameter : Text} {flag other : Bool}
    (hsame : flagPairs parameter flag = flagPairs parameter other) : flag = other := by
  cases flag <;> cases other <;> simp [flagPairs] at hsame ⊢

theorem eq_of_named {name other : Option Text}
    (hsame : name.toList.map (nameParameter, ·) = other.toList.map (nameParameter, ·)) :
    name = other := by
  cases name <;> cases other <;> simp at hsame ⊢
  exact hsame

/-- The name, the labels and the flags can each be told from what is asked. -/
theorem asked_injective (hquery : query.Unreserved) (hother : other.Unreserved)
    (hsame : query.asked = other.asked) : query = other := by
  have hname := hquery.name_of_asked
  have hlabels := hquery.labels_of_asked
  have hhelp := hquery.help_of_asked
  have haggregate := hquery.aggregate_of_asked
  rw [hsame, hother.name_of_asked] at hname
  rw [hsame, hother.labels_of_asked] at hlabels
  rw [hsame, hother.help_of_asked] at hhelp
  rw [hsame, hother.aggregate_of_asked] at haggregate
  obtain ⟨name, ⟨entries, distinct⟩, withHelp, aggregate⟩ := query
  obtain ⟨otherName, ⟨otherEntries, otherDistinct⟩, otherWithHelp, otherAggregate⟩ := other
  obtain rfl : otherName = name := eq_of_named hname
  obtain rfl : otherEntries = entries := hlabels
  obtain rfl : otherWithHelp = withHelp := flagPairs_inj hhelp
  obtain rfl : otherAggregate = aggregate := flagPairs_inj haggregate
  rfl

theorem Unreserved.read_toText (hunreserved : query.Unreserved) :
    FormEncoding.read query.toText = query.asked := by
  rw [toText, FormEncoding.read_write, hunreserved.parameters_eq]

end MetricsQuery

/-- Two queries with one address have one text. -/
theorem Endpoint.toText_eq_of_url {endpoint : Endpoint} {query other : MetricsQuery}
    (hsame : endpoint.url query = endpoint.url other) : query.toText = other.toText := by
  simp only [url] at hsame
  split at hsame <;> split at hsame
  · next hempty _ hother => rw [hempty, hother]
  · simp at hsame
  · simp at hsame
  · exact (List.cons.inj (List.append_cancel_left hsame)).2

/-- Where something is asked, the query of the address is what is written for it. -/
theorem Endpoint.url_eq_queryAddress (endpoint : Endpoint) {query : MetricsQuery}
    (hasked : query.parameters ≠ []) : endpoint.url query =
      queryAddress (withoutEndSlashes endpoint.baseUrl ++ endpoint.path) query.parameters := by
  have htext : query.toText ≠ [] := by
    intro hempty
    have hread := FormEncoding.read_write query.parameters
    rw [← MetricsQuery.toText, hempty] at hread
    exact hasked hread.symm
  rw [url, queryAddress, ← MetricsQuery.toText]
  split
  · next hempty => exact absurd hempty htext
  · rfl

namespace MetricsQuery

/-- A query can be told from its address. -/
theorem eq_of_url {endpoint : Endpoint} {query other : MetricsQuery} (hquery : query.Unreserved)
    (hother : other.Unreserved) (hsame : endpoint.url query = endpoint.url other) : query = other := by
  refine asked_injective hquery hother ?_
  rw [← hquery.read_toText, ← hother.read_toText, Endpoint.toText_eq_of_url hsame]

/-- The text of a query reads back as what was asked, name, labels and flags in this order, so that
no two queries have one address. -/
theorem query_told_by_its_address (query : MetricsQuery) (hquery : query.Unreserved) :
    FormEncoding.read query.toText =
      query.name.toList.map (nameParameter, ·) ++ query.labels.entries ++
        (if query.withHelp then [] else [(helpParameter, "false".toList)]) ++
        (if query.aggregate then [] else [(aggregateParameter, "false".toList)]) ∧
    ∀ (endpoint : Endpoint) (other : MetricsQuery), other.Unreserved → other ≠ query →
      endpoint.url other ≠ endpoint.url query := by
  exact ⟨hquery.read_toText, fun endpoint other hother hne hsame => hne (eq_of_url hother hquery hsame)⟩

/-- A query whose parts hold what separates and escapes pairs. -/
def awkwardQuery : MetricsQuery where
  name := some "a&b=c"
  labels := ⟨[("1", "x+y %41"), ("__help", "é|😀"), ("", "")], by decide⟩
  withHelp := false

theorem query_told_by_its_address_awkwardQuery :
    awkwardQuery.Unreserved ∧
    FormEncoding.read awkwardQuery.toText =
      [("__name__".toList, "a&b=c".toList), ("1".toList, "x+y %41".toList),
        ("__help".toList, "é|😀".toList), ([], []), ("__help__".toList, "false".toList)] ∧
    ∀ endpoint : Endpoint,
      endpoint.url { awkwardQuery with withHelp := true } ≠ endpoint.url awkwardQuery := by
  have hawkward : awkwardQuery.Unreserved := by decide +kernel
  obtain ⟨hread, hurl⟩ := query_told_by_its_address awkwardQuery hawkward
  refine ⟨hawkward, hread, fun endpoint => hurl endpoint _ hawkward ?_⟩
  simp [awkwardQuery]

end MetricsQuery

end ExporterAudit
