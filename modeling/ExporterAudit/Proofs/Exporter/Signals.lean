import ExporterAudit.Proofs.Exporter.Settling

/-!
The signals that an exporter gets, and the requests to stop it. Over a whole history each signal
has one cause: the timer of the start, or a request to stop made while the exporter ran. A request
waits for the exit and for nothing else.
-/

namespace ExporterAudit.Exporter

namespace Event

def isExit : Event → Bool
  | .exit _ _ => true
  | _ => false

def isStop : Event → Bool
  | .stop => true
  | _ => false

/-- An exit tells a code or a signal. -/
def isWellFormed : Event → Bool
  | .exit code signal => code.isSome || signal.isSome
  | _ => true

end Event

/-- Whether the exporter has exited. -/
def hasExited (events : List Event) : Bool :=
  events.any Event.isExit

/-- Whether the start has come to be ready, so that there is a handle to stop the exporter by. -/
def hasHandle (path : Text) (timeoutMs : Binary64) (events : List Event) : Bool :=
  match startReport path timeoutMs events with
  | .ready => true
  | _ => false

/-- The requests to stop that reach the exporter through its handle. -/
def stopCalls (path : Text) (timeoutMs : Binary64) (events : List Event) : List Moment :=
  (moments events).filter fun moment =>
    moment.event.isStop && hasHandle path timeoutMs moment.before

/-- How many requests to stop came before the first exit. -/
def earlyStopCount (path : Text) (timeoutMs : Binary64) (events : List Event) : Nat :=
  (stopCalls path timeoutMs events).countP (!hasExited ·.before)

variable {path : Text} {timeoutMs : Binary64}

theorem hasExited_append_singleton (events : List Event) (event : Event) :
    hasExited (events ++ [event]) = (hasExited events || event.isExit) := by
  simp [hasExited]

/-- A request counts if the exporter had a handle when it came, whatever happens later. -/
theorem stopCalls_append_singleton (events : List Event) (event : Event) :
    stopCalls path timeoutMs (events ++ [event]) = stopCalls path timeoutMs events ++
      if event.isStop && hasHandle path timeoutMs events then [⟨events, event⟩] else [] := by
  rw [stopCalls, moments_append_singleton, List.filter_append, ← stopCalls, List.filter_singleton,
    cond_eq_ite]

/-- An event that does not request a stop leaves the requests as they are. -/
theorem stopCalls_append_of_not_stop {event : Event} (hother : event.isStop = false)
    (events : List Event) :
    stopCalls path timeoutMs (events ++ [event]) = stopCalls path timeoutMs events := by
  simp [stopCalls_append_singleton, hother]

/-- Only the timer itself can make it fired. -/
theorem startTimer_append_eq_fired_iff {event : Event} (hother : timerAfter event = .cleared)
    (events : List Event) :
    startTimer path timeoutMs (events ++ [event]) = .fired ↔
      startTimer path timeoutMs events = .fired := by
  unfold startTimer
  rw [firstDecision?_append_singleton]
  cases firstDecision? path timeoutMs events with
  | none => cases Moment.decision? path timeoutMs ⟨events, event⟩ <;> simp [hother]
  | some first => rfl

variable (path timeoutMs) in
/-- An exit decides a start, unless something before it has. -/
theorem isSome_firstDecision?_of_hasExited {events : List Event} (hexited : hasExited events = true) :
    (firstDecision? path timeoutMs events).isSome = true := by
  induction events using List.reverseRecOn with
  | nil => cases hexited
  | append_singleton events event ih =>
    rw [firstDecision?_append_singleton, Option.isSome_or]
    rw [hasExited_append_singleton, Bool.or_eq_true] at hexited
    rcases hexited with hexited | hexit
    · rw [ih hexited, Bool.true_or]
    · cases event with
      | exit code signal => simp [Moment.decision?]
      | _ => cases hexit

namespace Lifecycle

@[simp]
theorem exited_settle (life : Lifecycle) (start : Start) (timer : Timer) :
    (life.settle start timer).exited = life.exited := by
  unfold settle
  split <;> rfl

@[simp]
theorem signals_settle (life : Lifecycle) (start : Start) (timer : Timer) :
    (life.settle start timer).signals = life.signals := by
  unfold settle
  split <;> rfl

@[simp]
theorem stops_settle (life : Lifecycle) (start : Start) (timer : Timer) :
    (life.settle start timer).stops = life.stops := by
  unfold settle
  split <;> rfl

/-! ### When no signal is sent -/

/-- A life in which nothing can send a signal any more: its start is settled, and a handle would be
one to an exporter that has exited. -/
structure Silent (life : Lifecycle) : Prop where
  settled : life.start ≠ .pending
  exited : life.start = .ready → life.exited = true

variable (path timeoutMs) in
/-- Nothing is sent once the start has failed or the exporter has exited, and neither is undone. -/
theorem Silent.step {life : Lifecycle} (hsilent : life.Silent) (event : Event) :
    (life.step path timeoutMs event).Silent ∧
      (life.step path timeoutMs event).signals = life.signals := by
  obtain ⟨hstart, -⟩ := step_of_settled path timeoutMs hsilent.settled event
  have hsettles := settle_of_settled hsilent.settled
  suffices hkept : (life.exited = true → (life.step path timeoutMs event).exited = true) ∧
      (life.step path timeoutMs event).signals = life.signals by
    exact ⟨⟨hstart ▸ hsilent.settled, fun hready => hkept.1 (hsilent.exited (hstart ▸ hready))⟩,
      hkept.2⟩
  cases event with
  | output text =>
    simp only [Lifecycle.step, lineDone, hsettles]
    split_ifs <;> exact ⟨id, rfl⟩
  | outputEnd =>
    simp only [Lifecycle.step, lineDone, hsettles]
    split_ifs <;> exact ⟨id, rfl⟩
  | exit code signal => simp +contextual [Lifecycle.step]
  | error message => simp [Lifecycle.step]
  | timeout => simp [step_timeout_of_settled hsilent.settled]
  | stop =>
    simp only [Lifecycle.step]
    split
    · next hready =>
      rw [if_pos (hsilent.exited hready)]
      exact ⟨id, rfl⟩
    · exact ⟨id, rfl⟩

theorem Silent.signals_after {life : Lifecycle} (hsilent : life.Silent) (events : List Event) :
    (life.after path timeoutMs events).signals = life.signals := by
  induction events generalizing life with
  | nil => rfl
  | cons event later ih =>
    obtain ⟨hnext, hsignals⟩ := hsilent.step path timeoutMs event
    exact (ih hnext).trans hsignals

theorem silent_unreadable : unreadable.Silent :=
  ⟨by simp [unreadable], by simp [unreadable]⟩

/-! ### Accounts -/

variable (path timeoutMs)

/-- What a life has to show for the requests and exits of its history. -/
structure Accounts (events : List Event) (life : Lifecycle) : Prop where
  exited : life.exited = hasExited events
  signals : life.signals = List.replicate
    ((if life.timer = .fired then 1 else 0) + earlyStopCount path timeoutMs events) endSignal
  stops : life.stops = List.replicate (stopCalls path timeoutMs events).length
    (if hasExited events then .done else .waiting)

variable {path timeoutMs}

theorem accounts_initial : Accounts path timeoutMs [] initial where
  exited := rfl
  signals := rfl
  stops := rfl

/-- There is a handle exactly in a life that is ready. -/
theorem Stands.hasHandle_eq {events : List Event} {life : Lifecycle}
    (hstands : Stands path timeoutMs events life) :
    hasHandle path timeoutMs events = true ↔ life.start = .ready := by
  rw [hasHandle, ← hstands.report_eq]
  cases life.start <;> simp [Start.report]

/-- Only the timer itself makes it fire: any other event clears it or leaves it as it was. -/
theorem Stands.fired_step_iff {events : List Event} {life : Lifecycle} {event : Event}
    (hstands : Stands path timeoutMs events life)
    (hnext : Stands path timeoutMs (events ++ [event]) (life.step path timeoutMs event))
    (hother : timerAfter event = .cleared) :
    (life.step path timeoutMs event).timer = .fired ↔ life.timer = .fired := by
  rw [hnext.timer_eq, hstands.timer_eq]
  exact startTimer_append_eq_fired_iff hother events

/-- Output and errors change no account. -/
theorem Accounts.quiet {events : List Event} {life next : Lifecycle} {event : Event}
    (haccounts : Accounts path timeoutMs events life)
    (hexit : event.isExit = false) (hstop : event.isStop = false)
    (hfired : next.timer = .fired ↔ life.timer = .fired) (hexited : next.exited = life.exited)
    (hsignals : next.signals = life.signals) (hstops : next.stops = life.stops) :
    Accounts path timeoutMs (events ++ [event]) next where
  exited := by simp [hexited, haccounts.exited, hasExited_append_singleton, hexit]
  signals := by
    simp only [hsignals, haccounts.signals, earlyStopCount, stopCalls_append_of_not_stop hstop, hfired]
  stops := by
    simp [hstops, haccounts.stops, stopCalls_append_of_not_stop hstop, hasExited_append_singleton,
      hexit]

/-- An exit answers all requests that wait and sends nothing. -/
theorem Accounts.step_exit {events : List Event} {life : Lifecycle}
    (haccounts : Accounts path timeoutMs events life) {code : Option Binary64}
    {signal : Option Text} (hformed : (Event.exit code signal).isWellFormed = true)
    (hfired : (life.step path timeoutMs (.exit code signal)).timer = .fired ↔ life.timer = .fired) :
    Accounts path timeoutMs (events ++ [.exit code signal])
      (life.step path timeoutMs (.exit code signal)) where
  exited := by
    have htold : (life.exited || code.isSome || signal.isSome) = true := by
      rw [Bool.or_assoc, show (code.isSome || signal.isSome) = true from hformed, Bool.or_true]
    simp [Lifecycle.step, htold, hasExited_append_singleton, Event.isExit]
  signals := by
    rw [earlyStopCount, stopCalls_append_of_not_stop rfl, ← earlyStopCount]
    simp only [hfired]
    simpa [Lifecycle.step] using haccounts.signals
  stops := by
    rw [stopCalls_append_of_not_stop rfl]
    simp [Lifecycle.step, haccounts.stops, hasExited_append_singleton, Event.isExit]

/-- The timer sends its signal once, and only while the start is pending. -/
theorem Accounts.step_timeout {events : List Event} {life : Lifecycle}
    (hstands : Stands path timeoutMs events life)
    (haccounts : Accounts path timeoutMs events life) :
    Accounts path timeoutMs (events ++ [.timeout]) (life.step path timeoutMs .timeout) := by
  by_cases hpending : life.start = .pending
  · have harmed := hstands.armed_iff.mpr hpending
    have hsent : life.signal.start = .pending := hpending
    have hstep : life.step path timeoutMs .timeout =
        { life.signal with start := .failed (.silent timeoutMs), timer := .fired } := by
      simp only [Lifecycle.step, hpending, harmed, settle_of_pending hsent]
    have hexits : hasExited (events ++ [.timeout]) = hasExited events := by
      simp [hasExited_append_singleton, Event.isExit]
    have hcalls : stopCalls path timeoutMs (events ++ [.timeout]) = stopCalls path timeoutMs events :=
      stopCalls_append_of_not_stop rfl events
    rw [hstep]
    exact {
      exited := haccounts.exited.trans hexits.symm
      signals := by
        simp [signal, haccounts.signals, harmed, earlyStopCount, hcalls, Nat.add_comm 1,
          List.replicate_succ']
      stops := by rw [hcalls, hexits, ← haccounts.stops]; rfl }
  · rw [step_timeout_of_settled hpending]
    exact haccounts.quiet rfl rfl Iff.rfl rfl rfl rfl

/-- A request to stop that reaches the exporter sends a signal if the exporter runs, and waits for
its exit. -/
theorem Accounts.step_stop {events : List Event} {life : Lifecycle}
    (hstands : Stands path timeoutMs events life)
    (haccounts : Accounts path timeoutMs events life) :
    Accounts path timeoutMs (events ++ [.stop]) (life.step path timeoutMs .stop) := by
  have hexits : hasExited (events ++ [.stop]) = hasExited events := by
    simp [hasExited_append_singleton, Event.isExit]
  by_cases hready : life.start = .ready
  · have hcalls : stopCalls path timeoutMs (events ++ [.stop]) =
        stopCalls path timeoutMs events ++ [⟨events, .stop⟩] := by
      rw [stopCalls_append_singleton, hstands.hasHandle_eq.mpr hready]
      rfl
    by_cases hexited : hasExited events = true
    · -- After the exit the request is done at once, and no signal is sent.
      have hstep : life.step path timeoutMs .stop = { life with stops := life.stops ++ [.done] } := by
        simp [Lifecycle.step, hready, haccounts.exited, hexited]
      rw [hstep]
      exact {
        exited := haccounts.exited.trans hexits.symm
        signals := by simp [haccounts.signals, earlyStopCount, hcalls, hexited]
        stops := by simp [haccounts.stops, hcalls, hexits, hexited, List.replicate_succ'] }
    · have hstep : life.step path timeoutMs .stop =
          { life.signal with stops := life.stops ++ [.waiting] } := by
        simp [Lifecycle.step, hready, haccounts.exited, hexited]
      rw [hstep]
      exact {
        exited := haccounts.exited.trans hexits.symm
        signals := by
          simp [signal, haccounts.signals, earlyStopCount, hcalls, hexited, ← Nat.add_assoc,
            List.replicate_succ']
        stops := by simp [haccounts.stops, hcalls, hexits, hexited, List.replicate_succ'] }
  · have hhandle : hasHandle path timeoutMs events = false := by
      simpa using mt hstands.hasHandle_eq.mp hready
    have hcalls : stopCalls path timeoutMs (events ++ [.stop]) = stopCalls path timeoutMs events := by
      simp [stopCalls_append_singleton, hhandle]
    have hstep : life.step path timeoutMs .stop = life := by
      simp only [Lifecycle.step]
    rw [hstep]
    exact {
      exited := haccounts.exited.trans hexits.symm
      signals := by rw [haccounts.signals, earlyStopCount, earlyStopCount, hcalls]
      stops := by rw [haccounts.stops, hcalls, hexits] }

/-- One event keeps the accounts. -/
theorem Accounts.step {events : List Event} {life : Lifecycle} {event : Event}
    (hstands : Stands path timeoutMs events life)
    (hnext : Stands path timeoutMs (events ++ [event]) (life.step path timeoutMs event))
    (haccounts : Accounts path timeoutMs events life) (hformed : event.isWellFormed = true) :
    Accounts path timeoutMs (events ++ [event]) (life.step path timeoutMs event) := by
  have hfired := hstands.fired_step_iff hnext
  cases event with
  | output text =>
    refine haccounts.quiet rfl rfl (hfired rfl) ?_ ?_ ?_
    all_goals
      simp only [Lifecycle.step, lineDone]
      split_ifs <;> simp
  | outputEnd =>
    refine haccounts.quiet rfl rfl (hfired rfl) ?_ ?_ ?_
    all_goals
      simp only [Lifecycle.step, lineDone]
      split_ifs <;> simp
  | exit code signal => exact haccounts.step_exit hformed (hfired rfl)
  | error message =>
    exact haccounts.quiet rfl rfl (hfired rfl) (exited_settle _ _ _) (signals_settle _ _ _)
      (stops_settle _ _ _)
  | timeout => exact haccounts.step_timeout hstands
  | stop => exact haccounts.step_stop hstands

variable (path timeoutMs) in
/-- The life of every history of well-formed events accounts for it. -/
theorem accounts_after {events : List Event}
    (hformed : ∀ event ∈ events, event.isWellFormed = true) :
    Accounts path timeoutMs events (initial.after path timeoutMs events) := by
  -- How the life stands to its history runs along: it tells of the handle and of the timer.
  induction events using List.reverseRecOn with
  | nil => exact accounts_initial
  | append_singleton events event ih =>
    rw [List.forall_mem_append] at hformed
    have hnext := stands_after path timeoutMs (events ++ [event])
    rw [after_append_singleton] at hnext ⊢
    exact (ih hformed.1).step (stands_after path timeoutMs events) hnext (hformed.2 event List.mem_cons_self)

/-- After an exit nothing sends a signal any more: the exit, if nothing before it, has settled the
start. -/
theorem Accounts.silent {events : List Event} {life : Lifecycle}
    (hstands : Stands path timeoutMs events life)
    (haccounts : Accounts path timeoutMs events life) (hexited : hasExited events = true) :
    life.Silent where
  settled := by
    cases hstands with
    | awaiting hawaits =>
      have hdecided := isSome_firstDecision?_of_hasExited path timeoutMs hexited
      simp [hawaits.undecided] at hdecided
    | settled _ hsettled _ _ => exact hsettled
  exited := fun _ => haccounts.exited.trans hexited

variable (path timeoutMs)

/-- Every signal asks the exporter to end, and is sent by the timer of the start or for a request to
stop made on the handle before the first exit; none is sent after an exit. A request is done exactly
when the exporter has exited. An exporter whose output cannot be read gets one signal and has failed
to start at once, whatever happens then. -/
theorem signals_and_stops_accounted (events : List Event)
    (hformed : ∀ event ∈ events, event.isWellFormed = true) :
    let life := initial.after path timeoutMs events
    (∀ signal ∈ life.signals, signal = "SIGTERM".toList) ∧
    life.signals.length =
      (if life.timer = .fired then 1 else 0) + earlyStopCount path timeoutMs events ∧
    (hasExited events = true → ∀ later,
      (initial.after path timeoutMs (events ++ later)).signals = life.signals) ∧
    life.stops.length = (stopCalls path timeoutMs events).length ∧
    (∀ stop ∈ life.stops, stop = .done ↔ hasExited events = true) ∧
    let unread := unreadable.after path timeoutMs events
    unread.signals = ["SIGTERM".toList] ∧ unread.timer = .none ∧
      unread.start.report = failedReport "stdout is not available" none := by
  have hstands := stands_after path timeoutMs events
  have haccounts := accounts_after path timeoutMs hformed
  have hunread := after_of_settled path timeoutMs silent_unreadable.settled events
  refine ⟨?_, ?_, fun hexited later => ?_, ?_, ?_, ?_, ?_, ?_⟩
  · intro signal hmem
    rw [haccounts.signals] at hmem
    exact List.eq_of_mem_replicate hmem
  · rw [haccounts.signals, List.length_replicate]
  · rw [after_append]
    exact (haccounts.silent hstands hexited).signals_after later
  · rw [haccounts.stops, List.length_replicate]
  · intro stop hmem
    rw [haccounts.stops] at hmem
    rw [List.eq_of_mem_replicate hmem]
    split <;> simp_all
  · exact silent_unreadable.signals_after events
  · exact hunread.2
  · rw [hunread.1]
    rfl

/-- An exporter that is asked to stop before it is ready, twice while it runs and once after its
exit. -/
def insistentStops : List Event := [
  .stop,
  .output "listen".toList,
  .output "ing\n".toList,
  .stop,
  .error "kill EPERM".toList,
  .stop,
  .exit none (some "SIGTERM".toList),
  .stop]

theorem signals_and_stops_accounted_insistentStops :
    (∀ event ∈ insistentStops, event.isWellFormed = true) ∧
      let life := initial.after "./exporter".toList 30000 insistentStops
      life.signals = ["SIGTERM".toList, "SIGTERM".toList] ∧ life.stops = [.done, .done, .done] := by
  have hformed : ∀ event ∈ insistentStops, event.isWellFormed = true := by decide
  obtain ⟨hsignals, hcount, -, hlength, hdone, -⟩ :=
    signals_and_stops_accounted "./exporter".toList 30000 insistentStops hformed
  have hexited : hasExited insistentStops = true := rfl
  refine ⟨hformed, ?_, ?_⟩
  · exact List.eq_replicate_iff.mpr ⟨hcount, hsignals⟩
  · exact List.eq_replicate_iff.mpr ⟨hlength, fun stop hmem => (hdone stop hmem).mpr hexited⟩

end Lifecycle

end ExporterAudit.Exporter
