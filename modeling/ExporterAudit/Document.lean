import ExporterAudit.Binary64.Shortest
import ExporterAudit.Entries

/-!
Data trees: what a settings document, a definitions file or a query response holds once it is
read, before anything is known about its shape.
-/

namespace ExporterAudit

/-- A data tree. The names of a map are distinct and in iteration order. -/
inductive Document where
  | null
  | bool (value : Bool)
  | number (value : Binary64)
  | text (value : Text)
  | list (items : List Document)
  | map (entries : List (Text × Document))

namespace Document

instance : Inhabited Document := ⟨.null⟩

/-- The map that a list of assignments leaves. -/
def ofPairs (pairs : List (Text × Document)) : Document :=
  .map (Entries.ofPairs pairs)

/-- A map of texts. -/
def ofTexts (pairs : List (Text × Text)) : Document :=
  ofPairs (pairs.map fun (name, value) => (name, .text value))

/-- The value of a member; `none` for what is not a map or has no such member. -/
def member? (document : Document) (name : Text) : Option Document :=
  match document with
  | .map entries => Entries.get? entries name
  | _ => none

end Document

end ExporterAudit
