import ExporterAudit.Failure
import ExporterAudit.Labels
import ExporterAudit.Text.Blank

/-!
The label block of a sample line, between its braces: pairs of a name and a value with commas
between them. A value in double quotes may hold commas and braces, and quotes and backslashes
after a backslash.
-/

namespace ExporterAudit.LabelBlock

/-- Undoes escapes: `\n` is a line feed, and a backslash before any other character, a line end
excepted, stands for that character. -/
def unescape : Text → Text
  | [] => []
  | '\\' :: c :: rest =>
    if Text.isLineEnd c then
      '\\' :: c :: unescape rest
    else
      (if c = 'n' then '\n' else c) :: unescape rest
  | c :: rest => c :: unescape rest

/-- Where a reader stands: outside double quotes, inside them, or after a backslash inside
them. -/
inductive QuoteState where
  | outside
  | inside
  | escaped
deriving DecidableEq, Repr

/-- A backslash counts inside quotes only. -/
def QuoteState.next : QuoteState → Char → QuoteState
  | .outside, c => if c = '"' then .inside else .outside
  | .inside, c => if c = '"' then .outside else if c = '\\' then .escaped else .inside
  | .escaped, _ => .inside

/-- The block before the first closing brace outside quotes, and the text after that brace. An
escaped character may not be a line end. -/
def close? (state : QuoteState) : Text → Option (Text × Text)
  | [] => none
  | c :: rest =>
    if state = .outside ∧ c = '}' then
      some ([], rest)
    else if state = .escaped ∧ Text.isLineEnd c then
      none
    else
      (close? (state.next c) rest).map fun (block, after) => (c :: block, after)

/-- The first piece of a block, up to a comma outside quotes, and the pieces after it. -/
def pieces (state : QuoteState) : Text → Text × List Text
  | [] => ([], [])
  | c :: rest =>
    let (first, others) := pieces (state.next c) rest
    if state = .outside ∧ c = ',' then ([], first :: others) else (c :: first, others)

/-- The pairs of a block as they are written, blank ones left out. -/
def pairs (block : Text) : List Text :=
  let (first, others) := pieces .outside block
  ((first :: others).map Text.trim).filter (· ≠ [])

/-- The text inside a pair of double quotes around the whole text. -/
def unquote? : Text → Option Text
  | '"' :: rest => if rest.getLast? = some '"' then some rest.dropLast else none
  | _ => none

/-- A value as written: without its quotes and escapes, or as it stands. -/
def valueOf (written : Text) : Text :=
  match unquote? written with
  | some inside => unescape inside
  | none => written

/-- Adds a pair of a block to labels; it is cut at its first equals sign. -/
def addPair (block : Text) (labels : Labels) (pair : Text) : Except Failure Labels :=
  match Text.splitFirst? '=' pair with
  | none => .error (.malformedLine ("\x7b" ++ block ++ "\x7d") ("label without value: " ++ pair))
  | some (name, value) => .ok (labels.assign name.trim (valueOf value.trim))

/-- Reads a label block. -/
def read (block : Text) : Except Failure Labels :=
  (pairs block).foldlM (addPair block) Labels.empty

end ExporterAudit.LabelBlock
