import ExporterAudit.Text.Basic

/-!
Results of checks, and how they are reported.
-/

namespace ExporterAudit

/-- What a check found. -/
inductive Verdict where
  | passed
  | failed (message : Option Text)
  | skipped (reason : Option Text)
deriving DecidableEq

namespace Verdict

def status : Verdict → Text
  | .passed => "passed"
  | .failed _ => "failed"
  | .skipped _ => "skipped"

/-- The message of a verdict, if it has one. -/
def message? : Verdict → Option Text
  | .passed => none
  | .failed message => message
  | .skipped reason => reason

/-- The verdict on a list of problems. -/
def ofProblems : List Text → Verdict
  | [] => .passed
  | problems => .failed (some (Text.join "; " problems))

end Verdict

/-- The verdict of a named check. -/
structure CheckResult where
  name : Text
  verdict : Verdict
deriving DecidableEq

namespace CheckResult

/-- The line that reports a result. -/
def toText (result : CheckResult) : Text :=
  match result.verdict with
  | .passed => "✓ " ++ result.name
  | .failed message => "✗ " ++ result.name ++ ": " ++ message.getD "failed"
  | .skipped reason =>
    let reason : Text := match reason with
      | none | some [] => []
      | some reason => ": " ++ reason
    "- " ++ result.name ++ " (skipped" ++ reason ++ ")"

def isPassed (result : CheckResult) : Bool :=
  match result.verdict with
  | .passed => true
  | _ => false

def isFailed (result : CheckResult) : Bool :=
  match result.verdict with
  | .failed _ => true
  | _ => false

def isSkipped (result : CheckResult) : Bool :=
  match result.verdict with
  | .skipped _ => true
  | _ => false

end CheckResult

/-- How many results there are of each kind. -/
structure Summary where
  total : Nat
  passed : Nat
  failed : Nat
  skipped : Nat
deriving DecidableEq

namespace Summary

def ofResults (results : List CheckResult) : Summary where
  total := results.length
  passed := results.countP CheckResult.isPassed
  failed := results.countP CheckResult.isFailed
  skipped := results.countP CheckResult.isSkipped

/-- The line that reports a summary. -/
def toText (summary : Summary) : Text :=
  Text.ofNat summary.total ++ " checks: " ++ Text.ofNat summary.passed ++ " passed, " ++
    Text.ofNat summary.failed ++ " failed, " ++ Text.ofNat summary.skipped ++ " skipped"

end Summary

/-- The lines that report results: one for each, and the summary. -/
def reportLines (results : List CheckResult) : List Text :=
  results.map CheckResult.toText ++ [(Summary.ofResults results).toText]

end ExporterAudit
