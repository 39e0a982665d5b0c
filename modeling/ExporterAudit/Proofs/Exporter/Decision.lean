import ExporterAudit.Exporter.Lifecycle
import Mathlib.Data.List.DropRight

/-!
What decides the start of an exporter, told from its whole history: a complete line of output, an
exit, an error or the end of the time to start. The earliest such event counts.
-/

namespace ExporterAudit.Exporter

/-- An event, and what happened before it. -/
structure Moment where
  before : List Event
  event : Event

/-- The moments of a history that continues an earlier one. -/
def momentsFrom (before : List Event) : List Event → List Moment
  | [] => []
  | event :: later => ⟨before, event⟩ :: momentsFrom (before ++ [event]) later

/-- The moments of a history, in order. -/
def moments (events : List Event) : List Moment :=
  momentsFrom [] events

/-- Whether the output ended. -/
def isOutputOver (events : List Event) : Bool :=
  events.any fun
    | .outputEnd => true
    | _ => false

/-- All that was written before the output ended. Nothing written later is ever delivered. -/
def outputOf : List Event → Text
  | [] => []
  | .output text :: later => text ++ outputOf later
  | .outputEnd :: _ => []
  | _ :: later => outputOf later

/-- The last line of a text, as far as it is not finished. -/
def unfinishedLine (text : Text) : Text :=
  text.rtakeWhile (!Lifecycle.endsLine ·)

/-- What is told about a start. -/
inductive Report where
  | pending
  | ready
  | failed (code : Option Text) (message : Text) (details : Option Document)

def Start.report : Start → Report
  | .pending => .pending
  | .ready => .ready
  | .failed fault =>
    let failure := Failure.exporterFailed fault
    .failed failure.code? failure.message failure.details

/-- A failure to start. -/
def failedReport (reason : Text) (details : Option Document) : Report :=
  .failed (some "EXPORTER_FAILED".toList) ("Exporter failed: " ++ reason) details

/-- What a moment decides about a start, if it decides anything: a line of output is complete, be
it begun earlier or left unfinished at the end, or the start has failed. -/
def Moment.decision? (path : Text) (timeoutMs : Binary64) : Moment → Option Report
  | ⟨before, .output text⟩ =>
    if !isOutputOver before && text.any Lifecycle.endsLine then some .ready else none
  | ⟨before, .outputEnd⟩ => if unfinishedLine (outputOf before) = [] then none else some .ready
  | ⟨_, .exit code signal⟩ =>
    some (failedReport "exited before becoming ready"
      (some (.ofPairs [("code", code.elim .null .number), ("signal", signal.elim .null .text)])))
  | ⟨_, .error message⟩ => some (failedReport message (some (.ofTexts [("path", path)])))
  | ⟨_, .timeout⟩ => some (failedReport ("not ready after " ++ timeoutMs.toText ++ "ms") none)
  | ⟨_, .stop⟩ => none

/-- The earliest event that decides a start, and what it decides. -/
def firstDecision? (path : Text) (timeoutMs : Binary64) (events : List Event) :
    Option (Event × Report) :=
  (moments events).findSome? fun moment =>
    (moment.decision? path timeoutMs).map (moment.event, ·)

/-- What a start comes to by its earliest deciding event. -/
def startReport (path : Text) (timeoutMs : Binary64) (events : List Event) : Report :=
  match firstDecision? path timeoutMs events with
  | none => .pending
  | some (_, report) => report

/-- How the timer of a start is left by the event that decides it. -/
def timerAfter : Event → Timer
  | .timeout => .fired
  | _ => .cleared

/-- How the timer of a start is left by its earliest deciding event. -/
def startTimer (path : Text) (timeoutMs : Binary64) (events : List Event) : Timer :=
  match firstDecision? path timeoutMs events with
  | none => .armed
  | some (event, _) => timerAfter event

/-! ### Histories that grow by an event -/

/-- A moment carries the events before it, so a history in two parts has the moments of both, the
later ones with the first part before them. -/
theorem momentsFrom_append (before first second : List Event) :
    momentsFrom before (first ++ second) =
      momentsFrom before first ++ momentsFrom (before ++ first) second := by
  induction first generalizing before with
  | nil => simp [momentsFrom]
  | cons event later ih => simp [momentsFrom, ih]

theorem moments_append_singleton (events : List Event) (event : Event) :
    moments (events ++ [event]) = moments events ++ [⟨events, event⟩] := by
  simp [moments, momentsFrom_append, momentsFrom]

/-- Output after its end does not count. -/
theorem outputOf_append (first second : List Event) :
    outputOf (first ++ second) =
      if isOutputOver first then outputOf first else outputOf first ++ outputOf second := by
  induction first with
  | nil => simp [outputOf, isOutputOver]
  | cons event later ih =>
    cases event with
    | output text =>
      rw [isOutputOver, List.any_cons, Bool.false_or, ← isOutputOver, List.cons_append, outputOf,
        outputOf, ih]
      split <;> simp
    | outputEnd => rfl
    | exit code signal => exact ih
    | error message => exact ih
    | timeout => exact ih
    | stop => exact ih

/-- A new event decides only what no earlier one did. -/
theorem firstDecision?_append_singleton (path : Text) (timeoutMs : Binary64) (events : List Event)
    (event : Event) :
    firstDecision? path timeoutMs (events ++ [event]) =
      (firstDecision? path timeoutMs events).or
        ((Moment.decision? path timeoutMs ⟨events, event⟩).map (event, ·)) := by
  simp [firstDecision?, moments_append_singleton, List.findSome?_append]

end ExporterAudit.Exporter
