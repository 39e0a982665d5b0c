import ExporterAudit.Entries
import ExporterAudit.Text.Units

/-!
Label sets: distinct names with text values, in iteration order.
-/

namespace ExporterAudit

/-- A label set. -/
structure Labels where
  entries : List (Text × Text)
  distinct : (entries.map Prod.fst).Nodup
deriving DecidableEq

namespace Labels

/-- The empty label set. -/
def empty : Labels := ⟨[], .nil⟩

instance : Inhabited Labels := ⟨empty⟩

/-- Gives a label a value. -/
def insert (labels : Labels) (name value : Text) : Labels :=
  ⟨Entries.assign labels.entries name value, Entries.nodup_assign labels.distinct name value⟩

/-- The label set that a list of pairs builds, a later pair replacing an earlier one. -/
def ofPairs (pairs : List (Text × Text)) : Labels :=
  pairs.foldl (fun labels (name, value) => labels.insert name value) empty

/-- The value of a label. -/
def get? (labels : Labels) (name : Text) : Option Text :=
  Entries.get? labels.entries name

/-- A label of this name is never kept by readers of label blocks and selections of labels. -/
def reservedName : Text := "__proto__"

/-- Gives a label a value, unless its name is reserved. -/
def assign (labels : Labels) (name value : Text) : Labels :=
  if name = reservedName then labels else labels.insert name value

/-- The labels that satisfy a condition. -/
def filter (labels : Labels) (keep : Text × Text → Bool) : Labels :=
  ⟨labels.entries.filter keep, labels.distinct.sublist (List.filter_sublist.map _)⟩

/-- The labels without the given names, and without the reserved one. -/
def without (labels : Labels) (names : List Text) : Labels :=
  labels.filter fun (name, _) => !names.contains name && name != reservedName

/-- The same names with the same values, in any order. -/
def same (a b : Labels) : Bool :=
  a.entries.length == b.entries.length &&
    a.entries.all fun (name, value) => b.get? name == some value

/-- The entries sorted by name, in the order of UTF-16 code units. -/
def sorted (labels : Labels) : List (Text × Text) :=
  labels.entries.mergeSort fun a b => Text.le a.1 b.1

/-- A label as it is written: the name, an equals sign and the value in double quotes. -/
def entryText (entry : Text × Text) : Text :=
  entry.1 ++ "=\"" ++ entry.2 ++ "\""

/-- The text that tells series apart: the labels sorted by name. -/
def key (labels : Labels) : Text :=
  Text.join "," (labels.sorted.map entryText)

/-- The labels as they are written, in iteration order. -/
def toText (labels : Labels) : Text :=
  Text.join "," (labels.entries.map entryText)

end Labels

end ExporterAudit
