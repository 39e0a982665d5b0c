import ExporterAudit.Check
import ExporterAudit.Proofs.Session.Actions

/-!
What checks do. Whatever a check finds or fails with, it has a result under its own name, and all it
does is to ask for pages and to wait. Only a check that does not end has no result; no check after
it has one either.
-/

namespace ExporterAudit

namespace Action

/-- A request or a wait. -/
def IsInquiry : Action → Prop
  | .request _ => True
  | .sleep _ => True
  | _ => False

end Action

open Session (Performs)

/-- A fetch asks for one page, or for none if its timeout is refused. -/
theorem Network.performs_fetch (network : Network) (timeoutMs : Binary64) (request : Request) :
    Performs Action.IsInquiry (network.fetch timeoutMs request) := by
  unfold fetch
  split
  · exact .ofExcept _
  · exact .bind (.act trivial) fun _ => .ofExcept _

/-- What is selected from a page does not ask for anything more. -/
theorem Endpoint.performs_fetch (endpoint : Endpoint) (network : Network) (query : MetricsQuery) :
    Performs Action.IsInquiry (endpoint.fetch network query) :=
  .bind (network.performs_fetch _ _) fun _ => .pure _

/-- An answer that is no document, or not of the right form, is not asked for again. -/
theorem QueryServer.performs_query (server : QueryServer) (network : Network) (expression : Text)
    (histogram : Bool) : Performs Action.IsInquiry (server.query network expression histogram) := by
  refine .bind (network.performs_fetch _ _) fun body => ?_
  split <;> exact .ofExcept _

namespace Check

variable (context : CheckContext)

theorem performs_fetchRecords (query : MetricsQuery) (name : Option Text) :
    Performs Action.IsInquiry (fetchRecords context query name) :=
  .bind (context.endpoint.performs_fetch _ _) fun _ => .ofExcept _

/-- The records are compared here, so one page is all that is asked for. -/
theorem performs_runFilteredRecords : Performs Action.IsInquiry (runFilteredRecords context) := by
  refine .bind (performs_fetchRecords _ _ _) fun actual => .bind (.ofExcept _) fun expected => ?_
  split <;> exact .pure _

theorem performs_runFilterCase (filterCase : FilterCase) :
    Performs Action.IsInquiry (runFilterCase context filterCase) := by
  refine .bind (performs_fetchRecords _ _ _) fun records => ?_
  split <;> exact .pure _

theorem performs_runAggregationCase (aggregationCase : Bool × List Binary64) :
    Performs Action.IsInquiry (runAggregationCase context aggregationCase) := by
  refine .bind (performs_fetchRecords _ _ _) fun records => ?_
  dsimp only
  split_ifs <;> exact .pure _

theorem performs_runHelpCase (withHelp : Bool) :
    Performs Action.IsInquiry (runHelpCase context withHelp) := by
  refine .bind (context.endpoint.performs_fetch _ _) fun _ => .bind (.ofExcept _) fun found => ?_
  split_ifs <;> exact .pure _

theorem performs_runParityCase (server : QueryServer) (definition : Definition) :
    Performs Action.IsInquiry (runParityCase context server definition) := by
  refine .bind (.ofExcept _) fun expected => .bind (server.performs_query _ _ _) fun actual => ?_
  split <;> exact .pure _

/-- Parts are gone through one after another, so together they do what each of them does. -/
theorem performs_problemsOf {α : Type} {problem? : α → Session (Option Text)}
    (hparts : ∀ part, Performs Action.IsInquiry (problem? part)) (parts : List α) :
    Performs Action.IsInquiry (problemsOf parts problem?) :=
  .bind (.mapM hparts parts) fun _ => .pure _

/-- The only check that waits: once, for a scrape to take place, before it asks. -/
theorem performs_runServerParity : Performs Action.IsInquiry (runServerParity context) := by
  unfold runServerParity
  split
  · exact .pure _
  · next server _ =>
    exact .bind (.act trivial) fun _ => performs_problemsOf (performs_runParityCase context server) _

/-- Whatever a check finds, all that it has done is to ask and to wait. -/
theorem performs_verdict (check : Check) : Performs Action.IsInquiry (check.verdict context) := by
  cases check with
  | filteredRecords => exact performs_runFilteredRecords context
  | filteredSums => exact performs_problemsOf (performs_runFilterCase context) _
  | aggregation => exact performs_problemsOf (performs_runAggregationCase context) _
  | help => exact performs_problemsOf (performs_runHelpCase context) _
  | serverParity => exact performs_runServerParity context

/-- What becomes of a check: its verdict, or a failure that counts as one. -/
def resultOf (check : Check) : Except Failure Verdict → CheckResult
  | .ok verdict => ⟨check.name, verdict⟩
  | .error failure => ⟨check.name, .failed (some failure.message)⟩

/-- A check that fails fails alone. -/
theorem run_of_ends {check : Check} (hends : (check.verdict context).isEndless = false) :
    check.run context =
      ⟨(check.verdict context).actions, .ok (check.resultOf (check.verdict context).outcome)⟩ := by
  unfold Session.isEndless at hends
  unfold run Session.attempt
  cases houtcome : (check.verdict context).outcome with
  | ok verdict => simp [resultOf]
  | error failure =>
    rw [houtcome] at hends
    simp [resultOf, hends]

/-- A check that does not end has no result. -/
theorem run_of_endless {check : Check} {value : Binary64}
    (hendless : (check.verdict context).outcome = .error (.endless value)) :
    check.run context = ⟨(check.verdict context).actions, .error (.endless value)⟩ := by
  simp [run, Session.attempt, hendless, Failure.isEndless]

/-- Results go by the name of the check also when it failed before it found anything. -/
theorem name_resultOf (check : Check) (outcome : Except Failure Verdict) :
    (check.resultOf outcome).name = check.name := by
  cases outcome <;> rfl

/-- Checks that end have results, one for each and in their order. -/
theorem outcome_run_of_ends {checks : List Check}
    (hends : ∀ check ∈ checks, (check.verdict context).isEndless = false) :
    List.Forall₂ (fun check result => (run context check).outcome = .ok result) checks
      (checks.map fun check => check.resultOf (check.verdict context).outcome) := by
  refine List.forall₂_map_right_iff.mpr (List.forall₂_same.mpr fun check hmem => ?_)
  rw [run_of_ends context (hends check hmem)]

theorem actions_run (check : Check) :
    (run context check).actions = (check.verdict context).actions := by
  cases hends : (check.verdict context).isEndless with
  | false => rw [run_of_ends context hends]
  | true =>
    obtain ⟨value, hendless⟩ := Session.isEndless_eq_true_iff.mp hends
    rw [run_of_endless context hendless]

/-- Running checks in a row adds no action of its own. -/
theorem performs_runAll (checks : List Check) : Performs Action.IsInquiry (runAll context checks) := by
  refine .mapM (fun check => ?_) checks
  intro action hmem
  rw [actions_run] at hmem
  exact performs_verdict context check action hmem

/-- Checks that end all have a result of their own, whatever the others run into. -/
theorem runAll_of_ends {checks : List Check}
    (hends : ∀ check ∈ checks, (check.verdict context).isEndless = false) :
    runAll context checks = ⟨checks.flatMap fun check => (check.verdict context).actions,
      .ok (checks.map fun check => check.resultOf (check.verdict context).outcome)⟩ := by
  rw [runAll, Session.mapM_of_ok (outcome_run_of_ends context hends)]
  simp only [actions_run]

/-- Nothing comes after the first check that does not end. -/
theorem runAll_of_endless {before later : List Check} {check : Check} {value : Binary64}
    (hends : ∀ check ∈ before, (check.verdict context).isEndless = false)
    (hendless : (check.verdict context).outcome = .error (.endless value)) :
    runAll context (before ++ check :: later) =
      ⟨(before ++ [check]).flatMap fun check => (check.verdict context).actions,
        .error (.endless value)⟩ := by
  rw [runAll, Session.mapM_of_error (outcome_run_of_ends context hends)
    (by rw [run_of_endless context hendless])]
  simp only [actions_run]

/-- Of some checks either all end or there is a first that does not. -/
theorem ends_cases (checks : List Check) :
    (∀ check ∈ checks, (check.verdict context).isEndless = false) ∨
      ∃ before check later value, checks = before ++ check :: later ∧
        (∀ check ∈ before, (check.verdict context).isEndless = false) ∧
        (check.verdict context).outcome = .error (.endless value) := by
  induction checks with
  | nil => exact .inl (by simp)
  | cons check rest ih =>
    cases hends : (check.verdict context).isEndless with
    | true =>
      obtain ⟨value, hendless⟩ := Session.isEndless_eq_true_iff.mp hends
      exact .inr ⟨[], check, rest, value, rfl, by simp, hendless⟩
    | false =>
      rcases ih with hall | ⟨before, endless, later, value, rfl, hbefore, hendless⟩
      · exact .inl (List.forall_mem_cons.mpr ⟨hends, hall⟩)
      · exact .inr ⟨check :: before, endless, later, value, rfl,
          List.forall_mem_cons.mpr ⟨hends, hbefore⟩, hendless⟩

end Check

end ExporterAudit
