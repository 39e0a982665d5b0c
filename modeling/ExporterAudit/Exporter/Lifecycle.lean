import ExporterAudit.Failure

/-!
The life of an exporter. The first line that it prints tells that it is ready. The start is
settled by the first event that decides it, and a timer bounds the wait; stopping sends a signal
and waits for the exit.
-/

namespace ExporterAudit.Exporter

/-- How an exporter is run. -/
structure Options where
  exporterPath : Text
  definitionsPath : Text
  port : Binary64
  shards : Binary64
  startTimeoutMs : Binary64

namespace Options

/-- How long to wait for the first line where nothing else is said, in milliseconds. -/
def standardTimeoutMs : Binary64 := 30000

/-- The arguments of an exporter. -/
def arguments (options : Options) : List Text :=
  ["--port", options.port.toText, "--conf", options.definitionsPath,
    "--smp=" ++ options.shards.toText]

end Options

/-- What is connected to input, output and error output of an exporter. -/
def standardStreams : List Text := ["ignore", "pipe", "ignore"]

/-- The signal that asks an exporter to end. -/
def endSignal : Text := "SIGTERM"

/-- What happens to an exporter, and what is asked of it. -/
inductive Event where
  /-- It writes to its output. -/
  | output (text : Text)
  /-- Its output ends. -/
  | outputEnd
  /-- It exits, with a code or by a signal. -/
  | exit (code : Option Binary64) (signal : Option Text)
  /-- Running it or signalling it went wrong. -/
  | error (message : Text)
  /-- The time to start is over. -/
  | timeout
  /-- It is asked to stop. -/
  | stop

/-- The outcome of a start. -/
inductive Start where
  | pending
  | ready
  | failed (fault : ExporterFault)

/-- The timer of a start. -/
inductive Timer where
  | none
  | armed
  | cleared
  | fired
deriving DecidableEq

/-- A request to stop, which is done when the exporter has exited. -/
inductive Stop where
  | waiting
  | done
deriving DecidableEq

/-- The life of an exporter since it was run. -/
structure Lifecycle where
  start : Start
  timer : Timer
  /-- The signals sent so far. -/
  signals : List Text
  /-- The requests to stop, in order. -/
  stops : List Stop
  exited : Bool
  /-- Whether the output so far ends in the middle of a line. -/
  inLine : Bool
  /-- Whether the output is over. -/
  ended : Bool

namespace Lifecycle

/-- An exporter that was just run and whose output can be read. -/
def initial : Lifecycle where
  start := .pending
  timer := .armed
  signals := []
  stops := []
  exited := false
  inLine := false
  ended := false

/-- An exporter whose output cannot be read: it is told to end at once. -/
def unreadable : Lifecycle :=
  { initial with start := .failed .noOutput, timer := .none, signals := [endSignal] }

/-- Settles a start that is pending. -/
def settle (life : Lifecycle) (start : Start) (timer : Timer) : Lifecycle :=
  match life.start with
  | .pending => { life with start, timer }
  | _ => life

/-- Sends the signal to end. -/
def signal (life : Lifecycle) : Lifecycle :=
  { life with signals := life.signals ++ [endSignal] }

/-- The characters that end a line of output. -/
def endsLine (c : Char) : Bool :=
  c == '\n' || c == '\r'

/-- A line of output is complete. -/
def lineDone (life : Lifecycle) : Lifecycle :=
  { life.settle .ready .cleared with inLine := false }

/-- What an event makes of an exporter that was run from a path with a start timeout. A signal is
only noted: that sending it fails and reports an error of its own is an event that follows. -/
def step (path : Text) (timeoutMs : Binary64) (life : Lifecycle) : Event → Lifecycle
  | .output text =>
    if life.ended || text.isEmpty then life
    else if text.any endsLine then life.lineDone
    else { life with inLine := true }
  | .outputEnd =>
    let finished := if life.inLine then life.lineDone else life
    { finished with ended := true }
  | .exit code signal =>
    let settled := life.settle (.failed (.exited code signal)) .cleared
    { settled with
      exited := life.exited || code.isSome || signal.isSome
      stops := life.stops.map fun _ => .done }
  | .error message => life.settle (.failed (.broken message path)) .cleared
  | .timeout =>
    match life.start, life.timer with
    | .pending, .armed => life.signal.settle (.failed (.silent timeoutMs)) .fired
    | _, _ => life
  | .stop =>
    match life.start with
    | .ready =>
      if life.exited then
        { life with stops := life.stops ++ [.done] }
      else
        { life.signal with stops := life.stops ++ [.waiting] }
    | _ => life

/-- The life after all events. -/
def after (path : Text) (timeoutMs : Binary64) (life : Lifecycle) (events : List Event) :
    Lifecycle :=
  events.foldl (step path timeoutMs) life

end Lifecycle

end ExporterAudit.Exporter
