import ExporterAudit.Proofs.Exporter.Decision

/-!
How the start of an exporter is settled. The flags and the timer of its life do in one pass what a
search through the whole history does: the earliest deciding event settles the start, and nothing
that happens later matters.
-/

namespace ExporterAudit.Exporter.Lifecycle

variable (path : Text) (timeoutMs : Binary64)

theorem after_append (life : Lifecycle) (first second : List Event) :
    life.after path timeoutMs (first ++ second) =
      (life.after path timeoutMs first).after path timeoutMs second :=
  List.foldl_append

theorem after_append_singleton (life : Lifecycle) (events : List Event) (event : Event) :
    life.after path timeoutMs (events ++ [event]) =
      (life.after path timeoutMs events).step path timeoutMs event :=
  after_append path timeoutMs life events [event]

theorem settle_of_pending {life : Lifecycle} (hpending : life.start = .pending) (start : Start)
    (timer : Timer) : life.settle start timer = { life with start, timer } := by
  simp only [settle, hpending]

/-- A start is settled once. Later decisions find it settled and change nothing. -/
theorem settle_of_settled {life : Lifecycle} (hsettled : life.start ≠ .pending) (start : Start)
    (timer : Timer) : life.settle start timer = life := by
  unfold settle
  split
  · next hpending => exact absurd hpending hsettled
  · rfl

variable {path timeoutMs} in
/-- A timer that goes off after the start is settled does nothing. -/
theorem step_timeout_of_settled {life : Lifecycle} (hsettled : life.start ≠ .pending) :
    life.step path timeoutMs .timeout = life := by
  simp only [step]
  split
  · next hpending _ => exact absurd hpending hsettled
  · rfl

/-- Nothing that happens changes a start that is settled, or its timer. -/
theorem step_of_settled {life : Lifecycle} (hsettled : life.start ≠ .pending) (event : Event) :
    (life.step path timeoutMs event).start = life.start ∧
      (life.step path timeoutMs event).timer = life.timer := by
  cases event with
  | output text =>
    simp only [step, lineDone, settle_of_settled hsettled]
    split_ifs <;> exact ⟨rfl, rfl⟩
  | outputEnd =>
    simp only [step, lineDone, settle_of_settled hsettled]
    split_ifs <;> exact ⟨rfl, rfl⟩
  | exit code signal => simp [step, settle_of_settled hsettled]
  | error message => simp [step, settle_of_settled hsettled]
  | timeout => simp [step_timeout_of_settled hsettled]
  | stop =>
    simp only [step]
    split
    · split_ifs <;> exact ⟨rfl, rfl⟩
    · exact ⟨rfl, rfl⟩

/-- A settled start stays whatever happens later, and so does its timer. -/
theorem after_of_settled {life : Lifecycle} (hsettled : life.start ≠ .pending)
    (events : List Event) :
    (life.after path timeoutMs events).start = life.start ∧
      (life.after path timeoutMs events).timer = life.timer := by
  induction events generalizing life with
  | nil => exact ⟨rfl, rfl⟩
  | cons event later ih =>
    obtain ⟨hstart, htimer⟩ := step_of_settled path timeoutMs hsettled event
    obtain ⟨hlater, htimers⟩ := ih (hstart ▸ hsettled)
    exact ⟨hlater.trans hstart, htimers.trans htimer⟩

/-- A life whose start nothing has decided yet: its flags tell what the output has been. -/
structure Awaits (events : List Event) (life : Lifecycle) : Prop where
  undecided : firstDecision? path timeoutMs events = none
  start : life.start = .pending
  timer : life.timer = .armed
  ended : life.ended = isOutputOver events
  inLine : life.inLine = !(outputOf events).isEmpty
  /-- Otherwise a line would have been complete. -/
  unbroken : ∀ c ∈ outputOf events, endsLine c = false

/-- How a life stands to its history. -/
inductive Stands (events : List Event) (life : Lifecycle) : Prop
  | awaiting (hawaits : Awaits path timeoutMs events life)
  | settled {event : Event} {report : Report}
      (hfirst : firstDecision? path timeoutMs events = some (event, report))
      (hsettled : life.start ≠ .pending) (hreport : life.start.report = report)
      (htimer : life.timer = timerAfter event)

variable {path timeoutMs}

theorem awaits_initial : Awaits path timeoutMs [] initial where
  undecided := rfl
  start := rfl
  timer := rfl
  ended := rfl
  inLine := rfl
  unbroken := by simp [outputOf]

/-- The first event that decides a start settles it. -/
theorem Awaits.settled {events : List Event} {life : Lifecycle}
    (hawaits : Awaits path timeoutMs events life) {event : Event} (start : Start)
    (hsettled : start ≠ .pending)
    (hdecides : Moment.decision? path timeoutMs ⟨events, event⟩ = some start.report)
    (hstep : (life.step path timeoutMs event).start = start ∧
      (life.step path timeoutMs event).timer = timerAfter event) :
    Stands path timeoutMs (events ++ [event]) (life.step path timeoutMs event) := by
  obtain ⟨rfl, htimer⟩ := hstep
  refine .settled ?_ hsettled rfl htimer
  rw [firstDecision?_append_singleton, hawaits.undecided, hdecides]
  rfl

/-- An event that decides nothing leaves the history undecided. -/
theorem Awaits.undecided_append {events : List Event} {life : Lifecycle}
    (hawaits : Awaits path timeoutMs events life) {event : Event}
    (hnothing : Moment.decision? path timeoutMs ⟨events, event⟩ = none) :
    firstDecision? path timeoutMs (events ++ [event]) = none := by
  rw [firstDecision?_append_singleton, hawaits.undecided, hnothing]
  rfl

/-- As long as no line is complete, all that was written is one unfinished line. -/
theorem Awaits.unfinishedLine_eq {events : List Event} {life : Lifecycle}
    (hawaits : Awaits path timeoutMs events life) :
    unfinishedLine (outputOf events) = outputOf events :=
  List.rtakeWhile_eq_self_iff.mpr fun c hmem => by simp [hawaits.unbroken c hmem]

/-- Output decides if it completes a line, be it one that was begun earlier, and only awaits more
otherwise. -/
theorem Awaits.step_output {events : List Event} {life : Lifecycle}
    (hawaits : Awaits path timeoutMs events life) (text : Text) :
    Stands path timeoutMs (events ++ [.output text]) (life.step path timeoutMs (.output text)) := by
  have hover : isOutputOver (events ++ [.output text]) = isOutputOver events := by
    simp [isOutputOver]
  have houtput : outputOf (events ++ [.output text]) =
      if isOutputOver events then outputOf events else outputOf events ++ text := by
    simp [outputOf_append, outputOf]
  by_cases hclosed : isOutputOver events = true
  · -- What is written after the end is not delivered.
    have hstep : life.step path timeoutMs (.output text) = life := by
      simp [step, hawaits.ended, hclosed]
    rw [if_pos hclosed] at houtput
    rw [hstep]
    refine .awaiting ⟨hawaits.undecided_append ?_, hawaits.start, hawaits.timer, ?_, ?_, ?_⟩
    · simp [Moment.decision?, hclosed]
    · rw [hover, hawaits.ended]
    · rw [houtput, hawaits.inLine]
    · rw [houtput]
      exact hawaits.unbroken
  · rw [if_neg hclosed] at houtput
    by_cases hends : text.any endsLine = true
    · -- The text completes a line, wherever the line began.
      have hnonempty : text ≠ [] := by
        rintro rfl
        cases hends
      have hstep : life.step path timeoutMs (.output text) = life.lineDone := by
        simp [step, hawaits.ended, hclosed, hnonempty, hends]
      refine hawaits.settled .ready (by simp) ?_ ?_
      · simp [Moment.decision?, hclosed, hends, Start.report]
      · simp [hstep, lineDone, settle_of_pending hawaits.start, timerAfter]
    · have hunbroken : ∀ c ∈ outputOf events ++ text, endsLine c = false := by
        intro c hmem
        rcases List.mem_append.mp hmem with hmem | hmem
        · exact hawaits.unbroken c hmem
        · simpa using fun hc => hends (List.any_eq_true.mpr ⟨c, hmem, hc⟩)
      have hundecided : firstDecision? path timeoutMs (events ++ [.output text]) = none :=
        hawaits.undecided_append (by simp [Moment.decision?, hends])
      by_cases hempty : text = []
      · subst hempty
        have hstep : life.step path timeoutMs (.output []) = life := by simp [step]
        rw [hstep]
        refine .awaiting ⟨hundecided, hawaits.start, hawaits.timer, ?_, ?_, ?_⟩
        · rw [hover, hawaits.ended]
        · rw [houtput, List.append_nil, hawaits.inLine]
        · rwa [houtput]
      · have hstep : life.step path timeoutMs (.output text) = { life with inLine := true } := by
          simp [step, hawaits.ended, hclosed, hempty, hends]
        rw [hstep]
        refine .awaiting ⟨hundecided, hawaits.start, hawaits.timer, ?_, ?_, ?_⟩
        · rw [hover, ← hawaits.ended]
        · simp [houtput, hempty]
        · rwa [houtput]

/-- The end of the output decides if a line has been begun, which it completes. -/
theorem Awaits.step_outputEnd {events : List Event} {life : Lifecycle}
    (hawaits : Awaits path timeoutMs events life) :
    Stands path timeoutMs (events ++ [.outputEnd]) (life.step path timeoutMs .outputEnd) := by
  have hline := hawaits.unfinishedLine_eq
  by_cases hempty : outputOf events = []
  · have hstep : life.step path timeoutMs .outputEnd = { life with ended := true } := by
      simp [step, hawaits.inLine, hempty]
    have houtput : outputOf (events ++ [.outputEnd]) = [] := by
      simp [outputOf_append, outputOf, hempty]
    rw [hstep]
    refine .awaiting ⟨hawaits.undecided_append ?_, hawaits.start, hawaits.timer, ?_, ?_, ?_⟩
    · simp [Moment.decision?, hline ▸ hempty]
    · simp [isOutputOver]
    · simp [houtput, hawaits.inLine, hempty]
    · simp [houtput]
  · have hstep : life.step path timeoutMs .outputEnd = { life.lineDone with ended := true } := by
      simp [step, hawaits.inLine, hempty]
    refine hawaits.settled .ready (by simp) ?_ ?_
    · simp [Moment.decision?, hline, hempty, Start.report]
    · simp [hstep, lineDone, settle_of_pending hawaits.start, timerAfter]

/-- One event moves an undecided start along its history. -/
theorem Awaits.step {events : List Event} {life : Lifecycle}
    (hawaits : Awaits path timeoutMs events life) (event : Event) :
    Stands path timeoutMs (events ++ [event]) (life.step path timeoutMs event) := by
  have hsettles := settle_of_pending hawaits.start
  cases event with
  | output text => exact hawaits.step_output text
  | outputEnd => exact hawaits.step_outputEnd
  | exit code signal =>
    refine hawaits.settled (.failed (.exited code signal)) (by simp) ?_ ?_
    · cases code <;> cases signal <;> rfl
    · simp [Lifecycle.step, hsettles, timerAfter]
  | error message =>
    refine hawaits.settled (.failed (.broken message path)) (by simp) rfl ?_
    simp [Lifecycle.step, hsettles, timerAfter]
  | timeout =>
    have hsent : life.signal.start = .pending := hawaits.start
    refine hawaits.settled (.failed (.silent timeoutMs)) (by simp) rfl ?_
    simp [Lifecycle.step, hawaits.start, hawaits.timer, settle_of_pending hsent, timerAfter]
  | stop =>
    have hstep : life.step path timeoutMs .stop = life := by
      simp only [Lifecycle.step, hawaits.start]
    have hover : isOutputOver (events ++ [.stop]) = isOutputOver events := by
      simp [isOutputOver]
    have houtput : outputOf (events ++ [.stop]) = outputOf events := by
      simp [outputOf_append, outputOf]
    rw [hstep]
    refine .awaiting ⟨hawaits.undecided_append rfl, hawaits.start, hawaits.timer, ?_, ?_, ?_⟩
    · rw [hover, hawaits.ended]
    · rw [houtput, hawaits.inLine]
    · rw [houtput]
      exact hawaits.unbroken

variable (path timeoutMs) in
/-- Whatever happens, the life stands where the earliest deciding event has put it. -/
theorem stands_after (events : List Event) :
    Stands path timeoutMs events (initial.after path timeoutMs events) := by
  -- The last event decides only if no earlier one did, so the history grows at its end.
  induction events using List.reverseRecOn with
  | nil => exact .awaiting awaits_initial
  | append_singleton events event ih =>
    rw [after_append_singleton]
    cases ih with
    | awaiting hawaits => exact hawaits.step event
    | settled hfirst hsettled hreport htimer =>
      obtain ⟨hstart, hkept⟩ := step_of_settled path timeoutMs hsettled event
      refine .settled ?_ (hstart ▸ hsettled) (hstart ▸ hreport) (hkept.trans htimer)
      rw [firstDecision?_append_singleton, hfirst]
      rfl

/-- A life reports what the first decision in its history says. -/
theorem Stands.report_eq {events : List Event} {life : Lifecycle}
    (hstands : Stands path timeoutMs events life) :
    life.start.report = startReport path timeoutMs events := by
  cases hstands with
  | awaiting hawaits =>
    rw [startReport, hawaits.undecided, hawaits.start]
    rfl
  | settled hfirst _ hreport _ => rw [startReport, hfirst, hreport]

theorem Stands.timer_eq {events : List Event} {life : Lifecycle}
    (hstands : Stands path timeoutMs events life) :
    life.timer = startTimer path timeoutMs events := by
  cases hstands with
  | awaiting hawaits => rw [startTimer, hawaits.undecided, hawaits.timer]
  | settled hfirst _ _ htimer => rw [startTimer, hfirst, htimer]

theorem timerAfter_ne_armed (event : Event) : timerAfter event ≠ .armed := by
  cases event <;> simp [timerAfter]

/-- The timer runs exactly as long as the start is pending. -/
theorem Stands.armed_iff {events : List Event} {life : Lifecycle}
    (hstands : Stands path timeoutMs events life) :
    life.timer = .armed ↔ life.start = .pending := by
  cases hstands with
  | awaiting hawaits => simp [hawaits.start, hawaits.timer]
  | settled _ hsettled _ htimer => simp [htimer, timerAfter_ne_armed, hsettled]

variable (path timeoutMs)

/-- A start comes to what its earliest deciding event makes of it, and is pending before. Its timer
is armed while it is pending and then fired or cleared. Once the start is settled nothing changes
it, and the timer can neither go off nor send a signal. -/
theorem start_settled_by_first_decision (events : List Event) :
    let life := initial.after path timeoutMs events
    life.start.report = startReport path timeoutMs events ∧
    life.timer = startTimer path timeoutMs events ∧
    (life.timer = .armed ↔ life.start = .pending) ∧
    (life.start ≠ .pending → ∀ later,
      let next := initial.after path timeoutMs (events ++ later)
      next.start = life.start ∧ next.timer = life.timer ∧
        next.step path timeoutMs .timeout = next) := by
  have hstands := stands_after path timeoutMs events
  refine ⟨hstands.report_eq, hstands.timer_eq, hstands.armed_iff, fun hsettled later => ?_⟩
  rw [after_append]
  obtain ⟨hstart, htimer⟩ := after_of_settled path timeoutMs hsettled later
  exact ⟨hstart, htimer, step_timeout_of_settled (hstart ▸ hsettled)⟩

/-- A line may come in pieces; what happens after it makes no difference. -/
example : startReport path timeoutMs
    [.output "list".toList, .stop, .output "ening\nmore".toList, .exit none (some "SIGKILL".toList)] =
      .ready := rfl

end ExporterAudit.Exporter.Lifecycle
