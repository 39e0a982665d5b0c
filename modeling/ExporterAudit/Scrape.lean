import ExporterAudit.Exposition

/-!
A scrape: one page of exposition text, asked by short metric names. An exporter puts a prefix and
a group in front of every name, so `counter_1` is `prefix_group_counter_1` on the page.
-/

namespace ExporterAudit

/-- What an exporter puts in front of its metric names. -/
structure Namespace where
  pre : Text
  group : Text
deriving DecidableEq

namespace Namespace

/-- The namespace where none is given. -/
def standard : Namespace := ⟨"seastar", "test_group"⟩

/-- The name with its group. -/
def groupName (space : Namespace) (name : Text) : Text :=
  space.group ++ "_" ++ name

/-- The name as it stands in exposition text. -/
def qualifiedName (space : Namespace) (name : Text) : Text :=
  space.pre ++ "_" ++ space.groupName name

end Namespace

/-- One page of exposition text. -/
structure Scrape where
  lines : List Text
  space : Namespace

namespace Scrape

/-- The scrape of a response body; white space at its end does not count. -/
def ofBody (body : Text) (space : Namespace) : Scrape :=
  ⟨Text.splitOn '\n' body.trimEnd, space⟩

/-- The records whose name starts with a short name and whose labels are given; missing arguments
let all pass. -/
def records (scrape : Scrape) (name : Option Text) (labels : Option Labels) :
    Exposition.Outcome :=
  Exposition.read scrape.lines { name := name.map scrape.space.qualifiedName, labels }

/-- Whether a line starts like a help header: `#`, the keyword and white space. -/
def mayBeHelp (line : Text) : Bool :=
  match line.trimStart with
  | '#' :: rest =>
    match Text.dropPrefix? Line.Keyword.help.name (Text.trimStart rest) with
    | some (c :: _) => Text.isBlank c
    | _ => false
  | _ => false

/-- The text of the first help header for a name among lines; lines that cannot be help headers
are not read. -/
def helpIn (target : Text) : (lines : List Text) → Except Failure (Option Text)
  | [] => .ok none
  | raw :: rest =>
    if mayBeHelp raw then do
      match ← Line.read raw with
      | .help name text => if name = target then return some text else helpIn target rest
      | _ => helpIn target rest
    else
      helpIn target rest

/-- The help text for a short name; `none` if the page has no help header for it. -/
def help (scrape : Scrape) (name : Text) : Except Failure (Option Text) :=
  helpIn (scrape.space.qualifiedName name) scrape.lines

end Scrape

end ExporterAudit
