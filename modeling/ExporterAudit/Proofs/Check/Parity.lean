import ExporterAudit.Proofs.Check.Verdict
import ExporterAudit.Proofs.Labels.Key
import ExporterAudit.Proofs.Network.Fetching
import ExporterAudit.Proofs.Success

/-!
What the comparison with the query server does and when it passes. A definition without a record
and a query without an answer end it, while a wrong answer is only noted. Definitions with other
labels than the selected ones play no part, whatever they are like.
-/

namespace ExporterAudit

/-! ### Definitions that are selected -/

namespace Definition

/-- Two lists that have the same definitions with the given labels, in the same order. Others may be
in one list alone, or stand in it for others. -/
inductive AlikeAt (labels : Labels) : List Definition → List Definition → Prop where
  | nil : AlikeAt labels [] []
  | both (definition : Definition) {first second : List Definition} :
      AlikeAt labels first second → AlikeAt labels (definition :: first) (definition :: second)
  | left {definition : Definition} (hlabels : ¬ definition.labels.entries.Perm labels.entries)
      {first second : List Definition} :
      AlikeAt labels first second → AlikeAt labels (definition :: first) second
  | right {definition : Definition} (hlabels : ¬ definition.labels.entries.Perm labels.entries)
      {first second : List Definition} :
      AlikeAt labels first second → AlikeAt labels first (definition :: second)

/-- What lists that are alike have in common is all that is selected from either. -/
theorem AlikeAt.selected_eq {labels : Labels} {first second : List Definition}
    (halike : AlikeAt labels first second) : selected first labels = selected second labels := by
  have hskip {definition : Definition} (hlabels : ¬ definition.labels.entries.Perm labels.entries)
      (definitions : List Definition) :
      selected (definition :: definitions) labels = selected definitions labels :=
    List.filter_cons_of_neg (by rwa [Labels.same_iff_perm])
  induction halike with
  | nil => rfl
  | both definition _ ih =>
    simp only [selected, List.filter_cons] at ih ⊢
    rw [ih]
  | left hlabels _ ih => rw [hskip hlabels, ih]
  | right hlabels _ ih => rw [hskip hlabels, ih]

end Definition

/-! ### Queries -/

namespace Check

variable (context : CheckContext) (server : QueryServer)

/-- Where the value of a definition is asked for: by its full name. -/
def valueAddress (definition : Definition) : Text :=
  queryAddress (withoutEndSlashes server.baseUrl ++ "/api/v1/query")
    [("query".toList,
      context.space.pre ++ "_" ++ (context.space.group ++ "_" ++ definition.name))]

theorem url_qualifiedName (definition : Definition) :
    server.url (context.space.qualifiedName definition.name) =
      valueAddress context server definition := by
  have hpath : "/api/v1/query?".toList = "/api/v1/query".toList ++ ['?'] := by decide
  rw [QueryServer.url, hpath, ← List.append_assoc,
    List.append_assoc (withoutEndSlashes server.baseUrl ++ "/api/v1/query".toList) ['?']]
  rfl

/-- What the answer to the query for a definition says: there is a page, it is a document, and this is
read as a value or refused. -/
def Says (definition : Definition) (outcome : Except Failure Value) : Prop :=
  ∃ body document, context.network.Answers (valueAddress context server definition) body ∧
    Json.read? body = some document ∧
    QueryServer.valueOf (definition.type = .histogram) document = outcome

/-- There is a record to expect, and the query server has an answer. -/
def Answered (definition : Definition) : Prop :=
  ∃ expected actual, definition.expectedRecord context.space = .ok expected ∧
    Timeout.refusal? server.timeoutMs = none ∧ Says context server definition (.ok actual)

/-- There is a record to expect, and the query server answers with its value. -/
def Agrees (definition : Definition) : Prop :=
  ∃ expected actual, definition.expectedRecord context.space = .ok expected ∧
    Timeout.refusal? server.timeoutMs = none ∧ Says context server definition (.ok actual) ∧
    expected.value.same actual = true

/-- The record to expect or the answer of the query server is never made out. -/
def KeepsComparing (definition : Definition) : Prop :=
  (∃ value, definition.expectedRecord context.space = .error (.endless value)) ∨
    ∃ expected value, definition.expectedRecord context.space = .ok expected ∧
      Timeout.refusal? server.timeoutMs = none ∧
      Says context server definition (.error (.endless value))

/-- The definitions, of those selected, that the query server is asked about: all of them, those
before the first without a record, or those up to the first without an answer. -/
inductive Asked : (selected asked : List Definition) → Prop where
  | all {selected : List Definition}
      (hanswered : ∀ definition ∈ selected, Answered context server definition) :
      Asked selected selected
  | rejected {before later : List Definition} {definition : Definition} {failure : Failure}
      (hbefore : ∀ definition ∈ before, Answered context server definition)
      (hrejected : definition.expectedRecord context.space = .error failure) :
      Asked (before ++ definition :: later) before
  | unanswered {before later : List Definition} {definition : Definition} {expected : Record}
      (hbefore : ∀ definition ∈ before, Answered context server definition)
      (hexpected : definition.expectedRecord context.space = .ok expected)
      (hunanswered : ¬ Answered context server definition) :
      Asked (before ++ definition :: later) (before ++ [definition])

/-- The query for the value of a definition. -/
def ask (definition : Definition) : Session Value :=
  server.query context.network (context.space.qualifiedName definition.name)
    (definition.type = .histogram)

theorem actions_ask (definition : Definition) :
    (ask context server definition).actions =
      if Timeout.refusal? server.timeoutMs = none then
        [.request {
          url := valueAddress context server definition
          accept := some "application/json" }]
      else [] := by
  rw [ask, QueryServer.query, url_qualifiedName, Session.actions_bind_of_nil, Network.actions_fetch]
  intro body
  split <;> rfl

variable {context server} {definition : Definition}

theorem outcome_ask_eq_ok_iff {value : Value} :
    (ask context server definition).outcome = .ok value ↔
      Timeout.refusal? server.timeoutMs = none ∧ Says context server definition (.ok value) := by
  simp only [ask, QueryServer.query, url_qualifiedName, Session.outcome_bind_eq_ok_iff,
    Network.outcome_fetch_eq_ok_iff]
  constructor
  · rintro ⟨body, ⟨htimeout, hbody⟩, hvalue⟩
    split at hvalue
    · cases hvalue
    · next document hdocument => exact ⟨htimeout, body, document, hbody, hdocument, hvalue⟩
  · rintro ⟨htimeout, body, document, hbody, hdocument, hvalue⟩
    refine ⟨body, ⟨htimeout, hbody⟩, ?_⟩
    rw [hdocument]
    exact hvalue

/-- The request itself ends. What may not is the search for the buckets of a histogram in the
answer. -/
theorem isEndless_ask_iff :
    (ask context server definition).isEndless = true ↔ ∃ value,
      Timeout.refusal? server.timeoutMs = none ∧
        Says context server definition (.error (.endless value)) := by
  simp only [ask, QueryServer.query, url_qualifiedName, Session.isEndless_bind_iff,
    Network.isEndless_fetch, Network.outcome_fetch_eq_ok_iff, Bool.false_eq_true, false_or]
  constructor
  · rintro ⟨body, ⟨htimeout, hbody⟩, hendless⟩
    split at hendless
    · cases hendless
    · next document hdocument =>
      obtain ⟨value, hvalue⟩ := Session.isEndless_eq_true_iff.mp hendless
      exact ⟨value, htimeout, body, document, hbody, hdocument, hvalue⟩
  · rintro ⟨value, htimeout, body, document, hbody, hdocument, hvalue⟩
    refine ⟨body, ⟨htimeout, hbody⟩, ?_⟩
    rw [hdocument]
    exact Session.isEndless_eq_true_iff.mpr ⟨value, hvalue⟩

theorem Asked.cons (hdefinition : Answered context server definition) {selected asked : List Definition}
    (hasked : Asked context server selected asked) :
    Asked context server (definition :: selected) (definition :: asked) := by
  cases hasked with
  | all hanswered => exact .all (List.forall_mem_cons.mpr ⟨hdefinition, hanswered⟩)
  | rejected hbefore hrejected =>
    exact .rejected (List.forall_mem_cons.mpr ⟨hdefinition, hbefore⟩) hrejected
  | unanswered hbefore hexpected hunanswered =>
    exact .unanswered (List.forall_mem_cons.mpr ⟨hdefinition, hbefore⟩) hexpected hunanswered

/-! ### One definition after another -/

/-- Without a record to expect, the query server is not asked. -/
theorem runParityCase_of_error {failure : Failure}
    (hrejected : definition.expectedRecord context.space = .error failure) :
    runParityCase context server definition = ⟨[], .error failure⟩ := by
  rw [runParityCase, hrejected]
  rfl

variable (server) in
/-- Where there is a record to expect, its value is compared with the answer. -/
theorem exists_runParityCase_of_ok {expected : Record}
    (hexpected : definition.expectedRecord context.space = .ok expected) :
    ∃ problem? : Value → Option Text,
      runParityCase context server definition = problem? <$> ask context server definition ∧
      ∀ actual, problem? actual = none ↔ expected.value.same actual = true := by
  refine ⟨fun actual => if expected.value.same actual then none
    else some (expected.toText ++ ": Prometheus has " ++ actual.toText), ?_, fun actual => by simp⟩
  rw [runParityCase, hexpected, map_eq_pure_bind]
  change (ask context server definition >>= _) = _
  refine congrArg (ask context server definition >>= ·) (funext fun actual => ?_)
  split <;> rfl

/-- A definition is no problem exactly if the query server agrees with it. -/
theorem runParityCase_eq_none_iff :
    (runParityCase context server definition).outcome = .ok none ↔ Agrees context server definition := by
  cases hexpected : definition.expectedRecord context.space with
  | error failure => simp [runParityCase_of_error hexpected, Agrees, hexpected]
  | ok expected =>
    obtain ⟨problem?, heq, hproblem⟩ := exists_runParityCase_of_ok server hexpected
    simp only [heq, Session.outcome_map_eq_ok_iff, hproblem, outcome_ask_eq_ok_iff, Agrees, hexpected,
      Except.ok.injEq, exists_and_left, exists_eq_left', and_assoc]

/-- The comparison goes on after a definition exactly if there was an answer, right or wrong. -/
theorem exists_runParityCase_iff :
    (∃ problem, (runParityCase context server definition).outcome = .ok problem) ↔
      Answered context server definition := by
  cases hexpected : definition.expectedRecord context.space with
  | error failure => simp [runParityCase_of_error hexpected, Answered, hexpected]
  | ok expected =>
    obtain ⟨problem?, heq, -⟩ := exists_runParityCase_of_ok server hexpected
    simp only [heq, Session.exists_outcome_map_iff, outcome_ask_eq_ok_iff, Answered, hexpected,
      Except.ok.injEq, exists_and_left, exists_eq_left']

theorem isEndless_runParityCase_iff :
    (runParityCase context server definition).isEndless = true ↔
      KeepsComparing context server definition := by
  cases hexpected : definition.expectedRecord context.space with
  | error failure =>
    simp [runParityCase_of_error hexpected, KeepsComparing, hexpected, Session.isEndless,
      Failure.isEndless_eq_true_iff]
  | ok expected =>
    obtain ⟨problem?, heq, -⟩ := exists_runParityCase_of_ok server hexpected
    rw [heq, Session.isEndless_map, isEndless_ask_iff]
    simp [KeepsComparing, hexpected]

variable (context server)

/-- The queries stop where the first definition has no record or no answer. -/
theorem exists_asked (selected : List Definition) :
    ∃ asked, Asked context server selected asked ∧
      (selected.mapM (runParityCase context server)).actions =
        asked.flatMap fun definition => (ask context server definition).actions := by
  induction selected with
  | nil => exact ⟨[], .all (by simp), rfl⟩
  | cons definition selected ih =>
    rw [List.mapM_cons]
    -- The others are asked about only if this definition has a record and an answer.
    cases hexpected : definition.expectedRecord context.space with
    | error failure =>
      refine ⟨[], .rejected (List.forall_mem_nil _) hexpected, ?_⟩
      rw [runParityCase_of_error hexpected, Session.mk_error_bind]
      rfl
    | ok expected =>
      obtain ⟨problem?, heq, -⟩ := exists_runParityCase_of_ok server hexpected
      rw [heq]
      rcases hask : ask context server definition with ⟨actions, failure | actual⟩
      · refine ⟨[definition], .unanswered (List.forall_mem_nil _) hexpected ?_, by simp [hask]⟩
        rw [← exists_runParityCase_iff, heq, hask]
        rintro ⟨problem, hproblem⟩
        cases hproblem
      · obtain ⟨asked, hasked, hactions⟩ := ih
        have hanswered : Answered context server definition :=
          ⟨expected, actual, hexpected, outcome_ask_eq_ok_iff.mp (by rw [hask])⟩
        refine ⟨definition :: asked, hasked.cons hanswered, ?_⟩
        rw [List.flatMap_cons, ← hactions, hask, Session.map_mk_ok, Session.mk_ok_bind,
          Session.actions_bind_of_nil fun _ => rfl]

/-- The comparison waits once before it goes through the selected definitions. -/
theorem verdict_serverParity :
    verdict { context with queryServer := some server } .serverParity =
      ⟨.sleep ((context.scrapeIntervalSeconds + 1) * 1000) ::
          (problemsOf (Definition.selected context.definitions context.labelFilter)
            (runParityCase context server)).actions,
        (problemsOf (Definition.selected context.definitions context.labelFilter)
          (runParityCase context server)).outcome⟩ := rfl

def depthAnswer : Text :=
  "\x7b\"data\":\x7b\"result\":[\x7b\"value\":[0,\"7\"]\x7d]\x7d\x7d"

/-- A gauge beside a definition with other labels that has no record. -/
def oneGauge : CheckContext where
  network := Network.ofReplies
    [("http://prometheus:9090/api/v1/query?query=seastar_test_group_depth", .response 200 depthAnswer)]
  endpoint := { baseUrl := "http://localhost:10001" }
  queryServer := none
  definitions := [⟨"sizes", .summary, [], .empty⟩, ⟨"depth", .gauge, [7], .ofPairs [("private", "1")]⟩]
  space := .standard
  labelFilter := .ofPairs [("private", "1")]
  scrapeIntervalSeconds := 15

end Check

end ExporterAudit
