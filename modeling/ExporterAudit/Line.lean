import ExporterAudit.LabelBlock
import ExporterAudit.MetricType

/-!
Single lines of exposition text, classified without the context of other lines.
-/

namespace ExporterAudit

/-- A line that reports a value. -/
structure Sample where
  name : Text
  labels : Labels
  value : Binary64
deriving DecidableEq

/-- What a line of exposition text is. -/
inductive Line where
  | blank
  | comment (text : Text)
  | help (name text : Text)
  | type (name : Text) (type : MetricType)
  | sample (sample : Sample)
deriving DecidableEq

namespace Line

/-- The number of a value token or bound: a numeral, a signed `Inf` or `NaN`. -/
def value? (token : Text) : Option Binary64 :=
  if token = "+Inf".toList ∨ token = "Inf".toList then some (.infinity false)
  else if token = "-Inf".toList then some (.infinity true)
  else if token = "NaN".toList then some .nan
  else if token = [] then none
  else Binary64.ofText? token

/-- The two header keywords. -/
inductive Keyword where
  | help
  | type
deriving DecidableEq

def Keyword.name : Keyword → Text
  | .help => "HELP"
  | .type => "TYPE"

/-- The keyword that a text starts with, and the rest of the text. -/
def keyword? (text : Text) : Option (Keyword × Text) :=
  match Text.dropPrefix? Keyword.help.name text with
  | some rest => some (.help, rest)
  | none => (Text.dropPrefix? Keyword.type.name text).map (Keyword.type, ·)

/-- A header: keyword, metric name if there is one, and the text after it. -/
structure Header where
  keyword : Keyword
  name : Option Text
  text : Text

/-- Takes a trimmed line that starts with `#` apart. It is a header if the keyword is a word of
its own and the text holds no line end. -/
def header? : Text → Option Header
  | '#' :: afterMark => do
    let (keyword, rest) ← keyword? (Text.trimStart afterMark)
    match rest with
    | [] => return { keyword, name := none, text := [] }
    | c :: _ =>
      if Text.isBlank c then
        let words := Text.trimStart rest
        let text := Text.trimStart (words.dropWhile (!Text.isBlank ·))
        if text.any Text.isLineEnd then none
        else return { keyword, name := some (words.takeWhile (!Text.isBlank ·)), text }
      else none
  | _ => none

/-- Reads a trimmed line that starts with `#`. -/
def readComment (line : Text) : Except Failure Line :=
  match header? line with
  | none => .ok (.comment (Text.trim (line.drop 1)))
  | some { keyword, name := none, .. } =>
    .error (.malformedLine line (keyword.name ++ " without metric name"))
  | some { keyword := Keyword.help, name := some name, text } =>
    .ok (.help name (LabelBlock.unescape text))
  | some { keyword := Keyword.type, name := some name, text } =>
    match MetricType.ofName? text with
    | some declared => .ok (.type name declared)
    | none =>
      let reason : Text := if text = [] then "missing type" else "unknown type '" ++ text ++ "'"
      .error (.malformedLine line reason)

def isNameStart (c : Char) : Bool :=
  c.isAlpha || c == '_' || c == ':'

def isNameChar (c : Char) : Bool :=
  c.isAlphanum || c == '_' || c == ':'

/-- The parts of a sample line: name, label block if there is one, and value token. -/
structure SampleParts where
  name : Text
  block : Option Text
  token : Text
deriving DecidableEq

/-- One word after white space, and nothing after it. -/
def lastWord? (text : Text) : Option Text :=
  let word := text.trimStart
  if word.length < text.length ∧ word ≠ [] ∧ word.all (!Text.isBlank ·) then some word else none

/-- Takes a trimmed sample line apart. -/
def sampleParts? (line : Text) : Option SampleParts := do
  let start ← line.head?
  guard (isNameStart start)
  let name := line.takeWhile isNameChar
  match line.dropWhile isNameChar with
  | '{' :: rest =>
    let (block, after) ← LabelBlock.close? .outside rest
    let token ← lastWord? after
    return { name, block := some block, token }
  | rest =>
    let token ← lastWord? rest
    return { name, block := none, token }

/-- Reads a sample line; `line` is the line as it was given, `trimmed` without the white space
around it. -/
def readSample (line trimmed : Text) : Except Failure Line :=
  match sampleParts? trimmed with
  | none => .error (.malformedLine line [])
  | some { name, block, token } =>
    match value? token with
    | none => .error (.malformedLine line ("invalid value '" ++ token ++ "'"))
    | some value => do
      let labels ← LabelBlock.read (block.getD [])
      return .sample { name, labels, value }

/-- Classifies one line of exposition text. -/
def read (line : Text) : Except Failure Line :=
  match line.trim with
  | [] => .ok .blank
  | '#' :: rest => readComment ('#' :: rest)
  | trimmed => readSample line trimmed

end Line

end ExporterAudit
