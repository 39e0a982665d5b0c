import ExporterAudit.Document

/-!
Values as they stand in a YAML text. A collection is known by its number, so that an alias is the
collection itself and not a copy of it: what is added to it later shows wherever it stands, and it
may hold itself. Data trees cannot be like that, so a value is seen as one down to a depth.
-/

namespace ExporterAudit.Yaml

/-- A value; a collection is given by its number. -/
inductive Value where
  | null
  | bool (value : Bool)
  | number (value : Binary64)
  | text (value : Text)
  | collection (index : Nat)

/-- What a collection holds so far. -/
inductive Collection where
  | sequence (items : List Value)
  | mapping (entries : List (Text × Value))

/-- The collections of a text by their numbers. -/
abbrev Graph := Array Collection

/-- A collection without what it holds. -/
def Collection.emptied : Collection → Document
  | .sequence _ => .list []
  | .mapping _ => .map []

/-- The data tree that a value is, down to a depth; collections further down are empty. -/
def Value.toDocument (graph : Graph) : (depth : Nat) → Value → Document
  | _, .null => .null
  | _, .bool value => .bool value
  | _, .number value => .number value
  | _, .text value => .text value
  | 0, .collection index => (graph[index]?.map Collection.emptied).getD .null
  | depth + 1, .collection index =>
    match graph[index]? with
    | none => .null
    | some (.sequence items) => .list (items.map (toDocument graph depth))
    | some (.mapping entries) =>
      .map (entries.map fun (name, value) => (name, toDocument graph depth value))

end ExporterAudit.Yaml
