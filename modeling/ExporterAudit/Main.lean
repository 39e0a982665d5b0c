import ExporterAudit.Audit
import ExporterAudit.Recording

/-!
The command line program. The network and the exporter are a recording on standard input; the
definitions are read from their file.
-/

namespace ExporterAudit.Main

/-- Why the system did not read a file. -/
def faultOfError (path : Text) : IO.Error → Text
  | .noFileOrDirectory .. => (FileFault.missing path).message
  | error => (toString error).toList

/-- A reader for the one file that an audit reads. -/
def readerFor : Option Text → IO FileReader
  | none => return fun path => .error (FileFault.missing path).message
  | some path => do
    try
      let content ← IO.FS.readFile (String.ofList path)
      return fun _ => .ok content.toList
    catch error =>
      return fun _ => .error (faultOfError path error)

/-- Prints what a session prints. -/
def performAction : Action → IO Unit
  | .print line => IO.println (String.ofList line)
  | .complain line => IO.eprintln (String.ofList line)
  | _ => return ()

end ExporterAudit.Main

open ExporterAudit ExporterAudit.Main in
/-- Runs an audit, prints what it prints and exits as it does. -/
def main (args : List String) : IO UInt32 := do
  let recorded ← (← IO.getStdin).readToEnd
  match Recording.read? recorded.toList with
  | none =>
    IO.eprintln "The recording on standard input is not valid."
    return 1
  | some outside =>
    let argv := args.map String.toList
    let files ← readerFor (Audit.definitionsPath? argv)
    let surroundings : Surroundings := {
      network := outside.network
      files
      exporter := .ofEvents outside.events }
    let session := Audit.run surroundings argv
    session.actions.forM performAction
    match session.outcome with
    | .ok code => return code.number.toUInt32
    | .error failure =>
      if failure.isEndless then
        repeat IO.sleep 1000
      IO.eprintln (String.ofList failure.message)
      return 1
