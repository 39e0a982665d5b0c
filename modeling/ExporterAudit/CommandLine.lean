import ExporterAudit.Settings

/-!
The command line of an audit. An option takes its value as the next argument or after an equals
sign; an option that is given again counts with its last value.
-/

namespace ExporterAudit.CommandLine

/-- An option with a value. -/
inductive ValueOption where
  | exporter
  | config
  | host
  | port
  | shards
  | queryServer
  | scrapeInterval
  | namePrefix
  | group
deriving DecidableEq, Repr

namespace ValueOption

def all : List ValueOption :=
  [.exporter, .config, .host, .port, .shards, .queryServer, .scrapeInterval, .namePrefix, .group]

/-- The option as it is typed. -/
def flag : ValueOption → Text
  | .exporter => "--exporter"
  | .config => "--config"
  | .host => "--host"
  | .port => "--port"
  | .shards => "--smp"
  | .queryServer => "--prometheus"
  | .scrapeInterval => "--prometheus-scrape-interval"
  | .namePrefix => "--prefix"
  | .group => "--group"

def ofFlag? (flag : Text) : Option ValueOption :=
  all.find? (·.flag == flag)

/-- The setting that an option is for; the two parts of the namespace are one setting. -/
def setting? : ValueOption → Option Text
  | .exporter => some "exporterPath"
  | .config => some "definitionsPath"
  | .host => some "host"
  | .port => some "port"
  | .shards => some "smp"
  | .queryServer => some "prometheusUrl"
  | .scrapeInterval => some "scrapeIntervalSeconds"
  | .namePrefix | .group => none

end ValueOption

/-- What a command line says. -/
structure Arguments where
  help : Bool
  /-- The last value of each option. -/
  value : ValueOption → Option Text

namespace Arguments

def none : Arguments := ⟨false, fun _ => .none⟩

/-- Gives an option a value. -/
def give (arguments : Arguments) (option : ValueOption) (value : Text) : Arguments :=
  { arguments with
    value := fun other => if other = option then some value else arguments.value other }

/-- The namespace, if a part of it was given. -/
def space? (arguments : Arguments) : Option Namespace :=
  match arguments.value .namePrefix, arguments.value .group with
  | .none, .none => .none
  | pre, group => some {
      pre := pre.getD Namespace.standard.pre
      group := group.getD Namespace.standard.group }

/-- The settings that were given, as a data tree. -/
def toDocument (arguments : Arguments) : Document :=
  let plain := ValueOption.all.filterMap fun option => do
    return (← option.setting?, Document.text (← arguments.value option))
  let space := arguments.space?.map fun space =>
    ("namespace".toList, Document.ofTexts [("prefix", space.pre), ("group", space.group)])
  .ofPairs (plain ++ space.toList)

end Arguments

def usageFailure (reason : Text) : Failure :=
  .invalidConfig [⟨"argv", reason⟩]

/-- Whether an argument asks for help. -/
def isHelp (argument : Text) : Bool :=
  argument = "--help".toList || argument = "-h".toList

/-- Gives the option of a flag a value, as `argument` says. -/
def giveFlag (arguments : Arguments) (argument flag value : Text) : Except Failure Arguments :=
  match ValueOption.ofFlag? flag with
  | none => .error (usageFailure ("Unknown option '" ++ argument ++ "'"))
  | some option =>
    if value = [] then
      .error (usageFailure ("Option '" ++ flag ++ "' requires a value"))
    else
      .ok (arguments.give option value)

/-- What arguments add to those already read. -/
def readFrom (read : Arguments) : List Text → Except Failure Arguments
  | [] => .ok read
  | argument :: rest =>
    if isHelp argument then
      readFrom { read with help := true } rest
    else
      match Text.splitFirst? '=' argument with
      | some (flag, value) => do
        let read ← giveFlag read argument flag value
        readFrom read rest
      | none =>
        match rest with
        | [] => giveFlag read argument argument []
        | value :: rest => do
          let read ← giveFlag read argument argument value
          readFrom read rest

/-- Reads a command line. -/
def read (arguments : List Text) : Except Failure Arguments :=
  readFrom .none arguments

/-- What is printed for help. -/
def helpText : Text :=
  Text.join "\n" [
    "",
    "Usage: expocheck --exporter <path> --config <yaml> [options]",
    "",
    "Starts a metrics exporter, scrapes its Prometheus text endpoint and checks",
    "the output against the metric definitions it was started with.",
    "",
    "Options:",
    "  --exporter <path>                  Exporter executable (required)",
    "  --config <path>                    Metric definitions YAML (required)",
    "  --host <host>                      Host the exporter listens on (default: localhost)",
    "  --port <port>                      Port the exporter listens on (default: 10001)",
    "  --smp <n>                          Exporter shard count (default: 2)",
    "  --prometheus <url>                 Prometheus scraping the exporter, enables parity checks",
    "  --prometheus-scrape-interval <s>   Prometheus scrape interval in seconds (default: 15)",
    "  --prefix <prefix>                  Metric name prefix (default: seastar)",
    "  --group <group>                    Metric group (default: test_group)",
    "  -h, --help                         Show this help message",
    "",
    "Exit codes:",
    "  0  every check passed or was skipped",
    "  1  a check failed or the exporter did not start",
    "  2  invalid arguments, settings or definitions",
    "",
    "Environment:",
    "  LOG_LEVEL   pino log level (default: debug, info in production)",
    ""]

end ExporterAudit.CommandLine
