import ExporterAudit.Proofs.Check.Running

/-!
When a check of several parts passes: if each of its parts goes through and finds no problem.
-/

namespace ExporterAudit

theorem Verdict.ofProblems_eq_passed_iff {problems : List Text} :
    ofProblems problems = .passed ↔ problems = [] := by
  cases problems <;> simp [ofProblems]

theorem Verdict.ofProblems_ne_skipped (problems : List Text) (reason : Option Text) :
    ofProblems problems ≠ .skipped reason := by
  cases problems <;> simp [ofProblems]

namespace Check

variable {α : Type} {parts : List α} {problem? : α → Session (Option Text)}

/-- The verdict is made of the problems of all parts, once each of them has gone through. -/
theorem problemsOf_outcome_eq_ok_iff {verdict : Verdict} :
    (problemsOf parts problem?).outcome = .ok verdict ↔
      ∃ problems, List.Forall₂ (fun part problem => (problem? part).outcome = .ok problem) parts problems ∧
        .ofProblems (problems.filterMap id) = verdict := by
  simp only [problemsOf, Session.outcome_bind_eq_ok_iff, Session.outcome_mapM_eq_ok_iff,
    Session.outcome_pure, Except.ok.injEq]

/-- Parts pass together if each of them goes through without a problem. -/
theorem problemsOf_passed_iff :
    (problemsOf parts problem?).outcome = .ok .passed ↔
      ∀ part ∈ parts, (problem? part).outcome = .ok none := by
  simp only [problemsOf_outcome_eq_ok_iff, Verdict.ofProblems_eq_passed_iff]
  constructor
  · rintro ⟨problems, hproblems, hnone⟩
    induction hproblems with
    | nil => simp
    | @cons part problem parts problems hpart _ ih =>
      cases problem with
      | some problem => simp at hnone
      | none => exact List.forall_mem_cons.mpr ⟨hpart, ih (by simpa using hnone)⟩
  · intro hparts
    refine ⟨parts.map fun _ => none, ?_, by simp [List.filterMap_map]⟩
    exact List.forall₂_map_right_iff.mpr (List.forall₂_same.mpr hparts)

/-- Parts pass or fail together. None of them is a reason to skip. -/
theorem problemsOf_ne_skipped (reason : Option Text) :
    (problemsOf parts problem?).outcome ≠ .ok (.skipped reason) := by
  rw [Ne, problemsOf_outcome_eq_ok_iff]
  rintro ⟨problems, -, hskipped⟩
  exact Verdict.ofProblems_ne_skipped _ _ hskipped

/-- A check that does not skip passes or fails. -/
theorem resultOf_isFailed_iff {check : Check} {outcome : Except Failure Verdict}
    (hdone : ∀ reason, outcome ≠ .ok (.skipped reason)) :
    (check.resultOf outcome).isFailed = true ↔ ¬ (check.resultOf outcome).isPassed = true := by
  rcases outcome with failure | (_ | _ | reason)
  · simp [resultOf, CheckResult.isFailed, CheckResult.isPassed]
  · simp [resultOf, CheckResult.isFailed, CheckResult.isPassed]
  · simp [resultOf, CheckResult.isFailed, CheckResult.isPassed]
  · exact absurd rfl (hdone reason)

theorem resultOf_isPassed_iff {check : Check} {outcome : Except Failure Verdict} :
    (check.resultOf outcome).isPassed = true ↔ outcome = .ok .passed := by
  rcases outcome with failure | (_ | _ | _) <;> simp [resultOf, CheckResult.isPassed]

theorem actions_problemsOf :
    (problemsOf parts problem?).actions = (parts.mapM problem?).actions :=
  Session.actions_bind_of_nil fun _ => rfl

/-- The parts go on forever if one of them does and all before it go through. -/
theorem isEndless_problemsOf_iff :
    (problemsOf parts problem?).isEndless = true ↔ ∃ before part later,
      parts = before ++ part :: later ∧
      (∀ earlier ∈ before, ∃ problem, (problem? earlier).outcome = .ok problem) ∧
      (problem? part).isEndless = true := by
  rw [problemsOf, Session.isEndless_bind_iff, ← Session.isEndless_mapM_iff]
  simp [Session.isEndless]

/-- A second part is gone into only if the first one goes through. -/
theorem isEndless_problemsOf_pair_iff {first second : α} :
    (problemsOf [first, second] problem?).isEndless = true ↔ (problem? first).isEndless = true ∨
      (∃ problem, (problem? first).outcome = .ok problem) ∧ (problem? second).isEndless = true := by
  rw [isEndless_problemsOf_iff]
  constructor
  · rintro ⟨before, part, later, heq, hbefore, hendless⟩
    rcases before with _ | ⟨other, _ | ⟨another, others⟩⟩
    · obtain ⟨rfl, -⟩ := List.cons.inj heq
      exact .inl hendless
    · obtain ⟨rfl, hrest⟩ := List.cons.inj heq
      obtain ⟨rfl, -⟩ := List.cons.inj hrest
      exact .inr ⟨hbefore _ List.mem_cons_self, hendless⟩
    · simp at heq
  · rintro (hendless | ⟨hfirst, hendless⟩)
    · exact ⟨[], first, [second], rfl, List.forall_mem_nil _, hendless⟩
    · exact ⟨[first], second, [], rfl, List.forall_mem_singleton.mpr hfirst, hendless⟩

/-- A second part does something only if the first one goes through. -/
theorem actions_problemsOf_pair (problem? : α → Session (Option Text)) (first second : α) :
    (problemsOf [first, second] problem?).actions =
      match (problem? first).outcome with
      | .error _ => (problem? first).actions
      | .ok _ => (problem? first).actions ++ (problem? second).actions := by
  rw [actions_problemsOf, List.mapM_cons, List.mapM_cons]
  rcases problem? first with ⟨actions, failure | problem⟩
  · rfl
  · rw [Session.mk_ok_bind]
    rcases problem? second with ⟨others, failure | other⟩ <;> simp

/-! ### From what a check finds to its result -/

variable {context : CheckContext} {check : Check}

/-- The result of a check depends on what it finds only. -/
theorem run_congr {other : CheckContext} (hverdict : check.verdict context = check.verdict other) :
    run context check = run other check := by
  rw [run, run, hverdict]

/-- A failure is turned into a result, so a check has one unless its verdict is never made out. -/
theorem isEndless_run : (run context check).isEndless = (check.verdict context).isEndless := by
  cases hends : (check.verdict context).isEndless with
  | false =>
    rw [run_of_ends context hends]
    rfl
  | true =>
    obtain ⟨value, hendless⟩ := Session.isEndless_eq_true_iff.mp hends
    rw [run_of_endless context hendless]
    rfl

/-- A check has a result exactly if it ends, and then its own. -/
theorem outcome_run_eq_ok_iff {result : CheckResult} :
    (run context check).outcome = .ok result ↔ (check.verdict context).isEndless = false ∧
      check.resultOf (check.verdict context).outcome = result := by
  cases hends : (check.verdict context).isEndless with
  | false => simp [run_of_ends context hends]
  | true =>
    obtain ⟨value, hendless⟩ := Session.isEndless_eq_true_iff.mp hends
    simp [run_of_endless context hendless]

/-- To pass, a check must go through to its verdict. A failure on the way does not count as one. -/
theorem exists_passed_iff :
    (∃ result, (run context check).outcome = .ok result ∧ result.isPassed = true) ↔
      (check.verdict context).outcome = .ok .passed := by
  simp only [outcome_run_eq_ok_iff, and_assoc, exists_and_left, exists_eq_left', resultOf_isPassed_iff]
  refine and_iff_right_of_imp fun hpassed => ?_
  rw [Session.isEndless, hpassed]

/-- A check that is not to be skipped fails if it ends and has not passed, be it by a problem or by
a failure on the way. -/
theorem exists_failed_iff
    (hdone : ∀ reason, (check.verdict context).outcome ≠ .ok (.skipped reason)) :
    (∃ result, (run context check).outcome = .ok result ∧ result.isFailed = true) ↔
      (run context check).isEndless = false ∧ ¬ (check.verdict context).outcome = .ok .passed := by
  simp only [outcome_run_eq_ok_iff, and_assoc, exists_and_left, exists_eq_left',
    resultOf_isFailed_iff hdone, resultOf_isPassed_iff, isEndless_run]

end Check

end ExporterAudit
