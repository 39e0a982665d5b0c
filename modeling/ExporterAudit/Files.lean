import ExporterAudit.Text.Quoted

/-!
Files by path, as the system finds them from a directory that holds files only. Outside that
directory only some directories are known, and the file of devices that is always empty.
-/

namespace ExporterAudit

/-- Why the system does not give the content of a file. -/
inductive FileFault where
  /-- The path has a null character, so that no system takes it. -/
  | unusable (path : Text)
  | missing (path : Text)
  | notDirectory (path : Text)
  | nameTooLong (path : Text)
  | directory

namespace FileFault

def message : FileFault → Text
  | .unusable path =>
    "The argument 'path' must be a string, Uint8Array, or URL without null bytes. Received " ++
      Text.Quoted.shown path
  | .missing path => "ENOENT: no such file or directory, open '" ++ path ++ "'"
  | .notDirectory path => "ENOTDIR: not a directory, open '" ++ path ++ "'"
  | .nameTooLong path => "ENAMETOOLONG: name too long, open '" ++ path ++ "'"
  | .directory => "EISDIR: illegal operation on a directory, read"

end FileFault

/-- The content of a file, or why the system does not give it. -/
abbrev FileReader := (path : Text) → Except Text Text

/-- Directories outside the one that holds the files. -/
inductive OuterPlace where
  /-- A directory around the one that holds the files. -/
  | around
  | root
  /-- The directory of devices. -/
  | devices
  /-- Another directory that every system has at its root. -/
  | system
deriving DecidableEq

namespace Files

/-- The names of directories that every system has at its root. -/
def systemNames : List Text :=
  ["bin", "etc", "home", "lib", "opt", "proc", "run", "sbin", "sys", "tmp", "usr", "var"]

/-- What a name stands for outside the directory. -/
inductive OuterEntry where
  | place (place : OuterPlace)
  | emptyFile

/-- The entry of a name. -/
def outerEntry? (place : OuterPlace) (name : Text) : Option OuterEntry :=
  match place with
  | .root =>
    if name = "dev".toList then some (.place .devices)
    else if systemNames.contains name then some (.place .system)
    else none
  | .devices => if name = "null".toList then some .emptyFile else none
  | .around | .system => none

/-- The directory around another. -/
def outerParent : OuterPlace → OuterPlace
  | .around => .around
  | .root | .devices | .system => .root

/-- The greatest length of a name, in bytes. -/
def longestName : Nat := 255

/-- The greatest length of a path, in bytes. -/
def longestPath : Nat := 4095

/-- What is not found in a directory that can be searched. -/
def notFound (path name : Text) : FileFault :=
  if longestName < (Text.bytes name).length then .nameTooLong path else .missing path

/-- The content of a file that the steps of a path lead to if none are left. -/
def contentAt (path content : Text) (steps : List Text) : Except FileFault Text :=
  if steps = [] then .ok content else .error (.notDirectory path)

/-- Whether a step of a path stays in its directory. -/
def isHere (step : Text) : Bool :=
  step = [] || step = ['.']

/-- Follows the steps of a path outside the directory. -/
def followOutside (path : Text) (place : OuterPlace) : (steps : List Text) → Except FileFault Text
  | [] => .error .directory
  | step :: rest =>
    if isHere step then
      followOutside path place rest
    else if step = ['.', '.'] then
      followOutside path (outerParent place) rest
    else
      match outerEntry? place step with
      | some (.place place) => followOutside path place rest
      | some .emptyFile => contentAt path [] rest
      | none => .error (notFound path step)

/-- Follows the steps of a path from the directory. -/
def follow (files : List (Text × Text)) (path : Text) :
    (steps : List Text) → Except FileFault Text
  | [] => .error .directory
  | step :: rest =>
    if isHere step then
      follow files path rest
    else if step = ['.', '.'] then
      followOutside path .around rest
    else
      match files.reverse.lookup step with
      | some content => contentAt path content rest
      | none => .error (notFound path step)

/-- The content of a file of the directory. -/
def find (files : List (Text × Text)) (path : Text) : Except FileFault Text :=
  if path.contains '\x00' then
    .error (.unusable path)
  else if longestPath < (Text.bytes path).length then
    .error (.nameTooLong path)
  else
    match Text.splitOn '/' path with
    | [] :: step :: rest => followOutside path .root (step :: rest)
    | steps => follow files path steps

/-- The directory that holds the listed files; of equal names the last counts. -/
def reader (files : List (Text × Text)) : FileReader := fun path =>
  (find files path).mapError FileFault.message

end Files

end ExporterAudit
