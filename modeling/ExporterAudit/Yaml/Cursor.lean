import ExporterAudit.Text.Units
import ExporterAudit.Yaml.Graph

/-!
Where a reader of YAML text stands: the characters that are left, the line and the column, the
indentation of the line and its first tab. Columns count UTF-16 code units. A line ends with a line
feed, a carriage return, or one after the other.
-/

namespace ExporterAudit.Yaml

/-- Why a text is refused. -/
inductive Fault where
  /-- For a reason, at a line and a column that count from one. -/
  | refused (reason : Text) (place : Option (Nat × Nat))
  /-- A tag for floats stands before a value that was read as a number without it, and nothing is
  left of the text that it would apply to. -/
  | numberTagged

def isBreak (c : Char) : Bool :=
  c == '\n' || c == '\r'

def isSpaceOrTab (c : Char) : Bool :=
  c == ' ' || c == '\t'

def isGap (c : Char) : Bool :=
  isSpaceOrTab c || isBreak c

def isFlowIndicator (c : Char) : Bool :=
  c == ',' || c == '[' || c == ']' || c == '{' || c == '}'

/-- A place in a text. -/
structure Mark where
  line : Nat := 0
  column : Nat := 0
  /-- The number of spaces that the line begins with. -/
  indent : Nat := 0
  /-- The column of the first tab before the content of the line. -/
  firstTab : Option Nat := none

namespace Mark

/-- The place after a character of the same line. -/
def step (mark : Mark) (c : Char) : Mark :=
  { mark with column := mark.column + (Text.charUnits c).length }

/-- The place after a line break. -/
def nextLine (mark : Mark) : Mark :=
  { line := mark.line + 1 }

/-- The place after a tab before the content of the line. -/
def tab (mark : Mark) : Mark :=
  { mark.step '\t' with firstTab := mark.firstTab.or (some mark.column) }

end Mark

/-- What a reader knows: where it stands, the collections and the anchored values so far, and the
tag handles of the document. -/
structure Reading where
  rest : Text
  mark : Mark := {}
  graph : Graph := #[]
  anchors : List (Text × Value) := []
  handles : List (Text × Text) := []

/-- A step of reading. -/
abbrev Reader := StateT Reading (Except Fault)

/-- Refuses the text at a column of the current line. -/
def refuseAt {α : Type} (column : Nat) (reason : Text) : Reader α := do
  let mark := (← get).mark
  throw (.refused reason (some (mark.line + 1, column + 1)))

/-- Refuses the text where the reader stands. -/
def refuse {α : Type} (reason : Text) : Reader α := do
  refuseAt (← get).mark.column reason

/-- A new collection. -/
def newCollection (content : Collection) : Reader Value := do
  let graph := (← get).graph
  modify fun r => { r with graph := r.graph.push content }
  return .collection graph.size

/-- What a collection holds so far; `none` for other values. -/
def content? : Value → Reader (Option Collection)
  | .collection index => return (← get).graph[index]?
  | _ => return none

/-- Changes what a collection holds. -/
def changeCollection (collection : Value) (change : Collection → Collection) : Reader Unit :=
  match collection with
  | .collection index =>
    modify fun r => { r with graph := r.graph.modify index change }
  | _ => return

/-- The next character, `none` at the end. -/
def peek : Reader (Option Char) := do
  return (← get).rest.head?

/-- The character after the next one. -/
def peekSecond : Reader (Option Char) := do
  return (← get).rest[1]?

/-- The column of the reader. -/
def column : Reader Nat := do
  return (← get).mark.column

/-- The number of the line, from zero. -/
def line : Reader Nat := do
  return (← get).mark.line

/-- The indentation of the line. -/
def indent : Reader Nat := do
  return (← get).mark.indent

/-- Passes one character of the line. -/
def skip : Reader Unit :=
  modify fun r =>
    match r.rest with
    | [] => r
    | c :: rest => { r with rest, mark := r.mark.step c }

/-- Passes the characters of the line that satisfy a condition, and gives them. -/
def takeWhile (accept : Char → Bool) : Reader Text := do
  let r ← get
  let taken := r.rest.takeWhile fun c => accept c && !isBreak c
  set { r with
    rest := r.rest.drop taken.length
    mark := taken.foldl Mark.step r.mark }
  return taken

/-- What follows the line break that a text begins with, if it does. -/
def afterBreak? : Text → Option Text
  | '\r' :: '\n' :: rest => some rest
  | c :: rest => if isBreak c then some rest else none
  | [] => none

/-- Passes a line break, which has to be next. -/
def lineBreak : Reader Unit := do
  let r ← get
  match afterBreak? r.rest with
  | some rest => set { r with rest, mark := r.mark.nextLine }
  | none => refuse "a line break is expected"

/-- How the characters between two tokens are taken. -/
inductive GapMode where
  /-- At the start of a line, where spaces indent. -/
  | indentation
  | blanks
  | comment
  /-- After a carriage return, which a line feed would only complete. -/
  | afterReturn

/-- Passes white space, line breaks and, if allowed, comments: the number of line breaks, the
place after them and the rest of the text. -/
def gap (comments : Bool) : GapMode → (breaks : Nat) → Mark → Text → Nat × Mark × Text
  | _, breaks, mark, [] => (breaks, mark, [])
  | mode, breaks, mark, c :: rest =>
    if c = '\n' then
      match mode with
      | .afterReturn => gap comments .indentation breaks mark rest
      | _ => gap comments .indentation (breaks + 1) mark.nextLine rest
    else if c = '\r' then
      gap comments .afterReturn (breaks + 1) mark.nextLine rest
    else
      match mode with
      | .comment => gap comments .comment breaks (mark.step c) rest
      | .indentation | .afterReturn =>
        if c = ' ' then
          gap comments .indentation breaks { mark.step c with indent := mark.indent + 1 } rest
        else if c = '\t' then
          gap comments .blanks breaks mark.tab rest
        else if comments ∧ c = '#' then
          gap comments .comment breaks (mark.step c) rest
        else
          (breaks, mark, c :: rest)
      | .blanks =>
        if c = ' ' then
          gap comments .blanks breaks (mark.step c) rest
        else if c = '\t' then
          gap comments .blanks breaks mark.tab rest
        else if comments ∧ c = '#' then
          gap comments .comment breaks (mark.step c) rest
        else
          (breaks, mark, c :: rest)

/-- Passes what separates two tokens and gives the number of line breaks in it. -/
def skipGap (comments : Bool) : Reader Nat := do
  let r ← get
  let (breaks, mark, rest) := gap comments .blanks 0 r.mark r.rest
  set { r with mark, rest }
  return breaks

/-- Whether a line starts a document or ends one: three hyphens or points and white space. -/
def isDocumentMark : Text → Bool
  | a :: b :: c :: rest =>
    (a == '-' || a == '.') && a == b && a == c &&
      match rest with
      | [] => true
      | d :: _ => isGap d
  | _ => false

/-- Whether the reader is at the start of a line that starts or ends a document. -/
def atDocumentMark : Reader Bool := do
  let r ← get
  return r.mark.column == 0 && isDocumentMark r.rest

/-- Passes `count` characters of the line. -/
def skipMany : (count : Nat) → Reader Unit
  | 0 => return
  | count + 1 => do
    skip
    skipMany count

end ExporterAudit.Yaml
