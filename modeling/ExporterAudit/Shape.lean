import ExporterAudit.Failure
import ExporterAudit.Labels

/-!
Shapes of data trees. A shape reads a value from a place of a document and otherwise tells every
problem that it finds there, in the order of its parts.
-/

namespace ExporterAudit

/-- What is wrong at a place, given by the path to it. -/
structure Problem where
  path : List Text
  reason : Text
deriving DecidableEq

namespace Problem

/-- A problem at the place itself. -/
def here (reason : Text) : Problem := ⟨[], reason⟩

/-- The same problem seen from one step further up. -/
def under (step : Text) (problem : Problem) : Problem :=
  { problem with path := step :: problem.path }

/-- The issue of a problem; the whole document is called `root`. -/
def toIssue (problem : Problem) : Issue where
  field := match Text.join "." problem.path with
    | [] => "root"
    | field => field
  reason := problem.reason

end Problem

/-- A value, or everything that is wrong. -/
inductive Checked (α : Type) where
  | ok (value : α)
  | bad (problems : List Problem)
deriving DecidableEq

namespace Checked

variable {α β : Type}

/-- A single problem at the place itself. -/
def refuse (reason : Text) : Checked α := .bad [.here reason]

def map (f : α → β) : Checked α → Checked β
  | .ok value => .ok (f value)
  | .bad problems => .bad problems

/-- Both parts, or the problems of both. -/
def both : Checked α → Checked β → Checked (α × β)
  | .ok a, .ok b => .ok (a, b)
  | .ok _, .bad problems => .bad problems
  | .bad problems, .ok _ => .bad problems
  | .bad problems, .bad others => .bad (problems ++ others)

instance : Functor Checked where
  map := map

/-- Parts combine in order, and so do their problems. -/
instance : Applicative Checked where
  pure := .ok
  seq f a := (both f (a ())).map fun (f, a) => f a

/-- The problems of what stands one step down. -/
def under (step : Text) : Checked α → Checked α
  | .ok value => .ok value
  | .bad problems => .bad (problems.map (.under step))

/-- All parts, or the problems of all. -/
def all : List (Checked α) → Checked (List α)
  | [] => .ok []
  | part :: parts => (part.both (all parts)).map fun (value, values) => value :: values

/-- Keeps a value that satisfies all conditions; each broken one is a problem. -/
def ensure (conditions : List (Text × (α → Bool))) : Checked α → Checked α
  | .ok value =>
    match conditions.filter fun (_, holds) => !holds value with
    | [] => .ok value
    | broken => .bad (broken.map fun (reason, _) => .here reason)
  | .bad problems => .bad problems

/-- The value, or the issues. -/
def toExcept : Checked α → Except (List Issue) α
  | .ok value => .ok value
  | .bad problems => .error (problems.map Problem.toIssue)

end Checked

/-- How a value is read from a place of a document; `none` where nothing stands. -/
abbrev Shape (α : Type) := Option Document → Checked α

namespace Shape

variable {α : Type}

/-- What kind of data stands at a place. -/
def kind : Document → Text
  | .null => "null"
  | .bool _ => "boolean"
  | .number .nan => "nan"
  | .number _ => "number"
  | .text _ => "string"
  | .list _ => "array"
  | .map _ => "object"

/-- The problem of a place that holds the wrong kind of data or none. -/
def unexpected (expected : Text) : Option Document → Checked α
  | none => .refuse "Required"
  | some document => .refuse ("Expected " ++ expected ++ ", received " ++ kind document)

/-- A text. -/
def text : Shape Text
  | some (.text value) => .ok value
  | place => unexpected "string" place

/-- A text with at least one character. -/
def nonemptyText : Shape Text := fun place =>
  (text place).ensure [("String must contain at least 1 character(s)", (· ≠ []))]

/-- A number; not-a-number is none. -/
def number : Shape Binary64
  | some (.number .nan) => unexpected "number" (some (.number .nan))
  | some (.number value) => .ok value
  | place => unexpected "number" place

/-- One of the listed names, each for a value. -/
def choice (names : List (Text × α)) : Shape α := fun place =>
  let listed := Text.join " | " (names.map fun (name, _) => "'" ++ name ++ "'")
  match place with
  | some (.text name) =>
    match names.lookup name with
    | some value => .ok value
    | none =>
      .refuse ("Invalid enum value. Expected " ++ listed ++ ", received '" ++ name ++ "'")
  | place => unexpected listed place

/-- The readings of the items of a list, numbered on from `position`. -/
def itemsFrom (item : Shape α) : (position : Nat) → List Document → List (Checked α)
  | _, [] => []
  | position, document :: rest =>
    (item (some document)).under (Text.ofNat position) :: itemsFrom item (position + 1) rest

/-- A list of items of one shape. -/
def list (item : Shape α) : Shape (List α)
  | some (.list items) => .all (itemsFrom item 0 items)
  | place => unexpected "array" place

/-- The items of a list that must have at least one; a missing item is told before the others. -/
def nonemptyList (item : Shape α) : Shape (List α)
  | some (.list []) => .refuse "Array must contain at least 1 element(s)"
  | place => list item place

/-- A map with free names whose values have one shape. -/
def mapOf (value : Shape α) : Shape (List (Text × α))
  | some (.map entries) =>
    .all (entries.map fun (name, document) =>
      ((value (some document)).under name).map (name, ·))
  | place => unexpected "object" place

/-- The member of a map, read by a shape. -/
def field (entries : List (Text × Document)) (name : Text) (shape : Shape α) : Checked α :=
  (shape (Entries.get? entries name)).under name

/-- A map with known members; others do not count. -/
def object (read : List (Text × Document) → Checked α) : Shape α
  | some (.map entries) => read entries
  | place => unexpected "object" place

/-- A shape with a value for the case that nothing stands at the place. -/
def withDefault (value : α) (shape : Shape α) : Shape α
  | none => .ok value
  | place => shape place

/-- A shape for a place where nothing may stand. -/
def optional (shape : Shape α) : Shape (Option α)
  | none => .ok none
  | place => (shape place).map some

/-- Labels: a map of values read as texts. The reserved name does not stay. -/
def labels (value : Shape Text) : Shape Labels := fun place =>
  (mapOf value place).map fun entries =>
    entries.foldl (fun labels (name, value) => labels.assign name value) .empty

end Shape

end ExporterAudit
