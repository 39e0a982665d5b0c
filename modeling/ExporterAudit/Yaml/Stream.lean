import ExporterAudit.Yaml.Node

/-!
Streams of YAML documents: directives, the marks that start and end documents, and the documents
between them. A definitions file is a stream with one document at most.
-/

namespace ExporterAudit.Yaml

/-- A directive line: its name and its arguments. -/
structure Directive where
  name : Text
  arguments : List Text

/-- The arguments of a directive up to the end of the line or a comment. -/
def directiveArguments : (fuel : Nat) → List Text → Reader (List Text)
  | 0, read => return read
  | fuel + 1, read => do
    let _ ← takeWhile isSpaceOrTab
    match ← peek with
    | none => return read
    | some c =>
      if c = '#' then
        let _ ← takeWhile fun _ => true
        return read
      else if isBreak c then
        return read
      else
        let argument ← takeWhile (!isGap ·)
        directiveArguments fuel (read ++ [argument])

/-- Whether a text is a version: two numbers with a point between them. The first number. -/
def majorVersion? (text : Text) : Option Nat := do
  let (major, minor) ← Text.splitFirst? '.' text
  guard (major ≠ [] ∧ minor ≠ [] ∧ major.all Binary64.isDigit ∧ minor.all Binary64.isDigit)
  return Binary64.decimalValue major

/-- Applies a directive; `versioned` tells whether a version was declared before. Unknown ones have
no effect. -/
def applyDirective (versioned : Bool) (directive : Directive) : Reader Bool := do
  if directive.name = "YAML".toList then
    if versioned then refuse "duplication of %YAML directive"
    let [version] := directive.arguments
      | refuse "YAML directive accepts exactly one argument"
    match majorVersion? version with
    | none => refuse "ill-formed argument of the YAML directive"
    | some major =>
      if major ≠ 1 then refuse "unacceptable YAML version of the document"
      return true
  else if directive.name = "TAG".toList then
    let [handle, start] := directive.arguments
      | refuse "TAG directive accepts exactly two arguments"
    if !isTagHandle handle then
      refuse "ill-formed tag handle (first argument) of the TAG directive"
    if Entries.has (← get).handles handle then
      refuse ("there is a previously declared suffix for \"" ++ handle ++ "\" tag handle")
    if !isTagName start then
      refuse "ill-formed tag prefix (second argument) of the TAG directive"
    match Text.Percent.decode? start with
    | none => refuse ("tag prefix is malformed: " ++ start)
    | some start =>
      modify fun r => { r with handles := Entries.assign r.handles handle start }
      return versioned
  else
    return versioned

/-- The directives before a document; whether there were any. -/
def directives : (fuel : Nat) → (versioned found : Bool) → Reader Bool
  | 0, _, found => return found
  | fuel + 1, versioned, found => do
    if (← peek).isNone then return found
    let _ ← skipGap true
    if 0 < (← indent) || (← peek) ≠ some '%' then return found
    skip
    let name ← takeWhile (!isGap ·)
    if name = [] then refuse "directive name must not be less than one character in length"
    let arguments ← directiveArguments ((← get).rest.length + 1) []
    if (← peek).isSome then lineBreak
    let versioned ← applyDirective versioned { name, arguments }
    directives fuel versioned true

/-- One document of a stream. -/
def document : Reader Value := do
  modify fun r => { r with anchors := [], handles := [] }
  let fuel := 8 * (← get).rest.length + 64
  let hasDirectives ← directives fuel false false
  let _ ← skipGap true
  let rest := (← get).rest
  if (← indent) = 0 && rest.take 3 = "---".toList then
    skipMany 3
    let _ ← skipGap true
  else if hasDirectives then
    refuse "directives end mark is expected"
  let read ← node ((← indent : Nat) - 1 : Int) .blockOut false true 0 fuel
  let _ ← skipGap true
  if ← atDocumentMark then
    if (← peek) = some '.' then
      skipMany 3
      let _ ← skipGap true
  else if 1 < (← get).rest.length then
    refuse "end of the stream or a document separator is expected"
  return read.value

/-- The documents of a stream after those already read. Each takes a character, so the length of
the text is fuel enough. -/
def documents : (fuel : Nat) → List Value → Reader (List Value)
  | 0, read => return read
  | fuel + 1, read => do
    if (← get).rest.length ≤ 1 then return read
    let next ← document
    documents fuel (read ++ [next])

/-- A text without the byte order mark before it and with a line end after it. -/
def completed (text : Text) : Text :=
  let ended := match text.getLast? with
    | none => text
    | some c => if c = '\n' ∨ c = '\r' then text else text ++ ['\n']
  match ended with
  | '\uFEFF' :: rest => rest
  | _ => ended

/-- Passes the spaces before the first document. -/
def leadingSpaces : Reader Unit := do
  let spaces ← takeWhile (· == ' ')
  modify fun r => { r with mark.indent := spaces.length }

/-- The documents of a text that is completed and begins with a document. -/
def stream : Reader (List Value) := do
  leadingSpaces
  let first ← document
  documents ((← get).rest.length + 1) [first]

/-- The only document of a text down to a depth, where collections are taken as empty; `none` if
the text is blank. -/
def read (depth : Nat) (text : Text) : Except Fault (Option Document) := do
  let complete := completed text
  let beforeNull := complete.takeWhile (·.toNat ≠ 0)
  if beforeNull.length < complete.length then
    throw (.refused "null byte is not allowed in input"
      (some (1, Text.unitLength beforeNull + 1)))
  if (complete.dropWhile (· == ' ')).length ≤ 1 then
    return none
  let (values, reading) ← stream.run { rest := complete }
  match values with
  | [] => return none
  | [value] => return some (value.toDocument reading.graph depth)
  | _ => throw (.refused "expected a single document in the stream, but found more" none)

end ExporterAudit.Yaml
