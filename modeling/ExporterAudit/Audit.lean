import ExporterAudit.Check
import ExporterAudit.CommandLine
import ExporterAudit.Files

/-!
An audit: settings and definitions are read, the exporter is started, checked and in any case
stopped.
-/

namespace ExporterAudit

/-- How an audit ends. -/
inductive ExitCode where
  /-- Every check passed or was skipped. -/
  | ok
  /-- A check failed, or the exporter did not start. -/
  | failed
  /-- The arguments, settings or definitions are invalid. -/
  | usage
deriving DecidableEq, Repr

def ExitCode.number : ExitCode → Nat
  | .ok => 0
  | .failed => 1
  | .usage => 2

/-- How an exporter behaves: whether it starts, and whether it can be stopped. -/
structure ExporterBehavior where
  start : Exporter.Options → Except Failure Unit
  stop : Except Failure Unit

namespace ExporterBehavior

/-- An exporter that starts and stops. -/
def sound : ExporterBehavior := ⟨fun _ => .ok (), .ok ()⟩

/-- The outcome of a start that the timer ends if no event does. -/
def startOutcome (options : Exporter.Options) (events : List Exporter.Event) :
    Except Failure Unit :=
  let life := Exporter.Lifecycle.after options.exporterPath options.startTimeoutMs .initial
    (events ++ [.timeout])
  match life.start with
  | .failed fault => .error (.exporterFailed fault)
  | .ready | .pending => .ok ()

/-- An exporter to which the given events happen after it was run. -/
def ofEvents (events : List Exporter.Event) : ExporterBehavior :=
  ⟨fun options => startOutcome options events, .ok ()⟩

/-- The signals that such an exporter got in a session. -/
def signals (events : List Exporter.Event) (actions : List Action) : List Text :=
  (Session.starts actions).flatMap fun options =>
    let stops := List.replicate (Session.stopCount actions) Exporter.Event.stop
    (Exporter.Lifecycle.after options.exporterPath options.startTimeoutMs .initial
      (events ++ .timeout :: stops)).signals

end ExporterBehavior

/-- The outside of an audit. -/
structure Surroundings where
  network : Network
  files : FileReader
  exporter : ExporterBehavior

namespace Audit

/-- The definitions of a file. -/
def readDefinitions (files : FileReader) (path : Text) : Except Failure (List Definition) := do
  let content ← (files path).mapError fun reason =>
    Failure.invalidDefinition (.unreadableFile path reason)
  Definition.ofText content

/-- The settings and definitions that the arguments lead to. -/
def prepare (files : FileReader) (arguments : CommandLine.Arguments) :
    Except Failure (Settings × List Definition) := do
  let settings ← Settings.ofDocument arguments.toDocument
  let definitions ← readDefinitions files settings.definitionsPath
  return (settings, definitions)

/-- The file that the definitions for a command line are in, if they are to be read at all. -/
def definitionsPath? (argv : List Text) : Option Text :=
  match CommandLine.read argv with
  | .error _ => none
  | .ok arguments => if arguments.help then none else arguments.value .config

/-- What a failure is on a line of its own: code and message. -/
def failureLine (code : Text) (failure : Failure) : Text :=
  code ++ ": " ++ failure.message

/-- Reports a failure before the start. Only invalid settings and definitions are reported. -/
def refuse (failure : Failure) : Session ExitCode :=
  match failure.code? with
  | some code =>
    if ErrorCode.categoryOf code = .config then do
      Session.complain (failureLine code failure)
      Session.complain "Run with --help for usage."
      return .usage
    else
      .ofExcept (.error failure)
  | none => .ofExcept (.error failure)

/-- Reports a failure of the start; one without a code is not reported. -/
def startFailed (failure : Failure) : Session ExitCode :=
  match failure.code? with
  | some code => do
    Session.complain (failureLine code failure)
    return .failed
  | none => .ofExcept (.error failure)

/-- How to run the exporter. -/
def exporterOptions (settings : Settings) : Exporter.Options where
  exporterPath := settings.exporterPath
  definitionsPath := settings.definitionsPath
  port := settings.port
  shards := settings.shards
  startTimeoutMs := settings.startTimeoutMs

/-- What the checks work on. -/
def checkContext (network : Network) (settings : Settings) (definitions : List Definition) :
    CheckContext where
  network
  endpoint := { baseUrl := settings.baseUrl, space := settings.space }
  queryServer := settings.prometheusUrl.map fun baseUrl => { baseUrl }
  definitions
  space := settings.space
  labelFilter := settings.labelFilter
  scrapeIntervalSeconds := settings.scrapeIntervalSeconds

/-- Runs all checks and reports their results. -/
def checkAndReport (context : CheckContext) : Session ExitCode := do
  let results ← Check.runAll context Check.all
  (reportLines results).forM Session.print
  return if 0 < (Summary.ofResults results).failed then .failed else .ok

/-- Stops the exporter. -/
def stopExporter (exporter : ExporterBehavior) : Session Unit := do
  Session.act .stop
  .ofExcept exporter.stop

/-- Starts the exporter, checks it and stops it in any case. -/
def auditExporter (outside : Surroundings) (settings : Settings) (definitions : List Definition) :
    Session ExitCode := do
  let options := exporterOptions settings
  Session.act (.start options)
  match outside.exporter.start options with
  | .error failure => startFailed failure
  | .ok () =>
    (checkAndReport (checkContext outside.network settings definitions)).followedBy
      (stopExporter outside.exporter)

/-- Runs an audit for a command line. -/
def run (outside : Surroundings) (argv : List Text) : Session ExitCode :=
  match CommandLine.read argv with
  | .error failure => refuse failure
  | .ok arguments =>
    if arguments.help then do
      Session.print CommandLine.helpText
      return .ok
    else
      match prepare outside.files arguments with
      | .error failure => refuse failure
      | .ok (settings, definitions) => auditExporter outside settings definitions

end Audit

end ExporterAudit
