import ExporterAudit.Definition
import ExporterAudit.Proofs.Binary64.Numeral
import ExporterAudit.Proofs.BucketCounts.Values
import ExporterAudit.Proofs.Entries.Lookup
import ExporterAudit.Proofs.Entries.Order
import ExporterAudit.Proofs.Shape.Accepting

/-!
Reading definitions as a normal form. A definitions file can spell numbers and labels in several ways;
what is read from it is spelled in one way, and reading that again changes nothing.
-/

namespace ExporterAudit

open Checked

/-- What is read from a list was read from its items. -/
theorem exists_of_mem_right {α β : Type} {r : α → β → Prop} {items : List α} {results : List β}
    (hall : List.Forall₂ r items results) {result : β} (hmem : result ∈ results) :
    ∃ item ∈ items, r item result := by
  induction hall with
  | nil => cases hmem
  | @cons item first items results hitem hrest ih =>
    rcases List.mem_cons.mp hmem with rfl | hmem
    · exact ⟨item, List.mem_cons_self, hitem⟩
    · obtain ⟨found, hfound, hresult⟩ := ih hmem
      exact ⟨found, List.mem_cons_of_mem item hfound, hresult⟩

/-! ### Labels that are read -/

namespace Labels

/-- That names are distinct is a proof, so label sets are their entries. -/
theorem eq_of_entries_eq {a b : Labels} (hentries : a.entries = b.entries) : a = b := by
  cases a
  cases b
  cases hentries
  rfl

/-- Labels as reading leaves them: in iteration order, and none of the reserved name. -/
structure Arranged (labels : Labels) : Prop where
  ordered : Entries.Ordered labels.entries
  unreserved : reservedName ∉ labels.entries.map Prod.fst

theorem arranged_empty : Arranged .empty :=
  ⟨List.Pairwise.nil, List.not_mem_nil⟩

theorem Arranged.assign {labels : Labels} (harranged : labels.Arranged) (name value : Text) :
    (labels.assign name value).Arranged := by
  unfold Labels.assign
  split
  · exact harranged
  · next hreserved =>
    refine ⟨harranged.ordered.assign name value, fun hmem => ?_⟩
    rcases Entries.mem_names_assign hmem with heq | hmem
    · exact hreserved heq.symm
    · exact harranged.unreserved hmem

/-- The labels that a list of pairs leaves. -/
def read (pairs : List (Text × Text)) : Labels :=
  pairs.foldl (fun labels (name, value) => labels.assign name value) .empty

theorem arranged_read (pairs : List (Text × Text)) : (read pairs).Arranged := by
  induction pairs using List.reverseRecOn with
  | nil => exact arranged_empty
  | append_singleton before pair ih =>
    rw [read, List.foldl_append]
    exact ih.assign pair.1 pair.2

/-- Without the reserved name, pairs are assigned like any entries. -/
theorem entries_read {pairs : List (Text × Text)} (hunreserved : reservedName ∉ pairs.map Prod.fst) :
    (read pairs).entries = Entries.ofPairs pairs := by
  induction pairs using List.reverseRecOn with
  | nil => rfl
  | append_singleton before pair ih =>
    rw [List.map_append, List.mem_append, not_or] at hunreserved
    have hbefore := ih hunreserved.1
    have hname : pair.1 ≠ reservedName := fun heq => hunreserved.2 (by simp [heq])
    rw [read] at hbefore
    rw [read, Entries.ofPairs, List.foldl_append, List.foldl_append, ← Entries.ofPairs, ← hbefore]
    exact congrArg Labels.entries (if_neg hname)

/-- Labels in their order are read back as they are. -/
theorem Arranged.read_entries {labels : Labels} (harranged : labels.Arranged) :
    read labels.entries = labels := by
  have hentries := entries_read harranged.unreserved
  rw [Entries.ofPairs_eq_self harranged.ordered labels.distinct] at hentries
  exact eq_of_entries_eq hentries

end Labels

namespace Definition

/-! ### What a file declares -/

/-- What can be written for a number. -/
inductive StandsFor : Document → Binary64 → Prop
  | number {value : Binary64} (hnumber : value ≠ .nan) : StandsFor (.number value) value
  | text {text : Text} {value : Binary64} (hfilled : text.trim ≠ [])
      (hvalue : Binary64.ofText? text.trim = some value) : StandsFor (.text text) value

/-- What can be written for the value of a label. -/
inductive PrintedAs : Document → Text → Prop
  | text (text : Text) : PrintedAs (.text text) text
  | number {value : Binary64} (hnumber : value ≠ .nan) : PrintedAs (.number value) value.toText
  | bool (value : Bool) : PrintedAs (.bool value) (if value then "true" else "false")

theorem StandsFor.ne_nan {item : Document} {value : Binary64} (hstands : StandsFor item value) :
    value ≠ .nan := by
  cases hstands with
  | number hnumber => exact hnumber
  | text hfilled hvalue => exact Binary64.ne_nan_of_ofText? hvalue

/-- A value is read as the number that it stands for, be it a number or a text. -/
theorem valueShape_eq_ok_iff {item : Document} {value : Binary64} :
    valueShape (some item) = .ok value ↔ StandsFor item value := by
  constructor
  · intro hread
    unfold valueShape at hread
    split at hread
    case h_2 number hnumber heq =>
      cases heq
      cases hread
      exact .number fun hnan => hnumber (hnan ▸ rfl)
    case h_3 text heq =>
      cases heq
      dsimp only at hread
      split at hread
      · cases hread
      · next hfilled =>
        split at hread
        · next hvalue =>
          cases hread
          exact .text hfilled hvalue
        · cases hread
    all_goals cases hread
  · rintro (hnumber | ⟨hfilled, hvalue⟩)
    · cases value with
      | nan => exact absurd rfl hnumber
      | infinity negative => rfl
      | finite negative units hlt hbits => rfl
    · simp only [valueShape, if_neg hfilled, hvalue]

/-- The value of a label is a text, or a number or a truth value as it is printed. -/
theorem labelShape_eq_ok_iff {item : Document} {value : Text} :
    labelShape (some item) = .ok value ↔ PrintedAs item value := by
  constructor
  · intro hread
    unfold labelShape at hread
    split at hread
    case h_1 text heq =>
      cases heq
      cases hread
      exact .text _
    case h_3 number hnumber heq =>
      cases heq
      cases hread
      exact .number fun hnan => hnumber (hnan ▸ rfl)
    case h_4 heq =>
      cases heq
      cases hread
      exact .bool true
    case h_5 heq =>
      cases heq
      cases hread
      exact .bool false
    all_goals cases hread
  · rintro (_ | @⟨number, hnumber⟩ | value)
    · rfl
    · cases number with
      | nan => exact absurd rfl hnumber
      | infinity negative => rfl
      | finite negative units hlt hbits => rfl
    · cases value <;> rfl

theorem lookup_types_eq_some_iff {name : Text} {type : DefinedType} :
    (DefinedType.all.map fun type => (type.name, type)).lookup name = some type ↔
      name = type.name := by
  rw [Entries.lookup_eq_some_iff (by decide)]
  constructor
  · intro hmem
    obtain ⟨other, -, heq⟩ := List.mem_map.mp hmem
    cases heq
    rfl
  · rintro rfl
    exact List.mem_map.mpr ⟨type, by cases type <;> decide, rfl⟩

/-- What a map declares: a name that is not empty, a type, at least one value, and labels, of which
there are none where the map says nothing about them. -/
structure Declares (entries : List (Text × Document)) (definition : Definition) : Prop where
  name : Entries.get? entries "name" = some (.text definition.name)
  named : definition.name ≠ []
  type : Entries.get? entries "type" = some (.text definition.type.name)
  values : ∃ items, Entries.get? entries "values" = some (.list items) ∧ items ≠ [] ∧
    List.Forall₂ StandsFor items definition.values
  labels : (Entries.get? entries "labels" = none ∧ definition.labels = .empty) ∨
    ∃ members pairs, Entries.get? entries "labels" = some (.map members) ∧
      List.Forall₂ (fun member pair => member.1 = pair.1 ∧ PrintedAs member.2 pair.2) members pairs ∧
      Labels.read pairs = definition.labels

theorem labels_eq_ok_iff {place : Option Document} {labels : Labels} :
    Shape.withDefault .empty (.labels labelShape) place = .ok labels ↔
      (place = none ∧ labels = .empty) ∨ ∃ members pairs, place = some (.map members) ∧
        List.Forall₂ (fun member pair => member.1 = pair.1 ∧ PrintedAs member.2 pair.2) members pairs ∧
        Labels.read pairs = labels := by
  cases place with
  | none => simp [Shape.withDefault, eq_comm]
  | some document =>
    change Shape.labels labelShape (some document) = .ok labels ↔ _
    simp only [Shape.labels_eq_ok_iff, Shape.mapOf_eq_ok_iff, labelShape_eq_ok_iff]
    constructor
    · rintro ⟨pairs, ⟨members, hplace, hmembers⟩, hread⟩
      exact .inr ⟨members, pairs, hplace, hmembers, hread⟩
    · rintro (⟨hnone, -⟩ | ⟨members, pairs, hplace, hmembers, hread⟩)
      · cases hnone
      · exact ⟨pairs, ⟨members, hplace, hmembers⟩, hread⟩

/-- The decoder of a definition accepts exactly the maps that declare it. -/
theorem shape_eq_ok_iff {item : Document} {definition : Definition} :
    shape (some item) = .ok definition ↔ ∃ entries, item = .map entries ∧ Declares entries definition := by
  simp only [shape, Shape.object_eq_ok_iff, Option.some.injEq]
  refine exists_congr fun entries => and_congr_right fun _ => ?_
  simp only [seq_eq_ok_iff, fmap_eq_ok_iff, Shape.field_eq_ok_iff, Shape.nonemptyText_eq_ok_iff,
    Shape.choice_eq_ok_iff, lookup_types_eq_some_iff, Shape.nonemptyList_eq_ok_iff,
    valueShape_eq_ok_iff, labels_eq_ok_iff]
  constructor
  · rintro ⟨_, labels, ⟨_, values, ⟨_, type, ⟨name, ⟨hname, hnamed⟩, rfl⟩, ⟨_, htype, rfl⟩, rfl⟩, hvalues, rfl⟩,
      hlabels, rfl⟩
    exact ⟨hname, hnamed, htype, hvalues, hlabels⟩
  · rintro ⟨hname, hnamed, htype, hvalues, hlabels⟩
    exact ⟨_, _, ⟨_, _, ⟨_, _, ⟨_, ⟨hname, hnamed⟩, rfl⟩, ⟨_, htype, rfl⟩, rfl⟩, hvalues, rfl⟩, hlabels, rfl⟩

/-- The definitions of a file are those of its metrics, one by one. -/
theorem ofDocument_eq_ok_iff {document : Option Document} {definitions : List Definition} :
    ofDocument document = .ok definitions ↔ ∃ entries items, document = some (.map entries) ∧
      Entries.get? entries "metrics" = some (.list items) ∧
      List.Forall₂ (fun item definition => shape (some item) = .ok definition) items definitions := by
  have hread : ofDocument document = .ok definitions ↔ fileShape document = .ok definitions := by
    rw [ofDocument, ← toExcept_eq_ok_iff]
    cases (fileShape document).toExcept <;> simp [Except.mapError]
  rw [hread, fileShape, Shape.object_eq_ok_iff]
  simp only [Shape.field_eq_ok_iff, Shape.list_eq_ok_iff, exists_and_left]

/-! ### Normal forms -/

/-- A definition as reading leaves it. -/
structure Normal (definition : Definition) : Prop where
  named : definition.name ≠ []
  valued : definition.values ≠ []
  numbers : .nan ∉ definition.values
  labels : definition.labels.Arranged

/-- What a map declares is in normal form, however it is spelled. -/
theorem Declares.normal {entries : List (Text × Document)} {definition : Definition}
    (hdeclares : Declares entries definition) : definition.Normal := by
  obtain ⟨items, -, hsome, hitems⟩ := hdeclares.values
  refine ⟨hdeclares.named, ?_, ?_, ?_⟩
  · intro hnone
    rw [hnone, List.forall₂_nil_right_iff] at hitems
    exact hsome hitems
  · intro hmem
    obtain ⟨item, -, hstands⟩ := exists_of_mem_right hitems hmem
    exact hstands.ne_nan rfl
  · rcases hdeclares.labels with ⟨-, hnone⟩ | ⟨members, pairs, -, -, hread⟩
    · rw [hnone]
      exact Labels.arranged_empty
    · rw [← hread]
      exact Labels.arranged_read pairs

/-- A definition in normal form is declared by its own document. -/
theorem Normal.declares {definition : Definition} (hnormal : definition.Normal) :
    ∃ entries, definition.toDocument = .map entries ∧ Declares entries definition := by
  refine ⟨_, rfl, rfl, hnormal.named, rfl, ⟨_, rfl, ?_, ?_⟩, .inr ⟨_, definition.labels.entries, rfl, ?_, ?_⟩⟩
  · simpa using hnormal.valued
  · rw [List.forall₂_map_left_iff, List.forall₂_same]
    exact fun value hmem => .number fun hnan => hnormal.numbers (hnan ▸ hmem)
  · rw [List.forall₂_map_left_iff, List.forall₂_same]
    exact fun entry _ => ⟨rfl, .text entry.2⟩
  · exact hnormal.labels.read_entries

/-- Exactly the normal forms are read back as they are. -/
theorem normal_iff {definition : Definition} :
    definition.Normal ↔ shape (some definition.toDocument) = .ok definition := by
  rw [shape_eq_ok_iff]
  constructor
  · exact Normal.declares
  · rintro ⟨entries, -, hdeclares⟩
    exact hdeclares.normal

/-- Written out and read back, definitions in normal form are the same. -/
theorem ofDocument_fileDocument {definitions : List Definition}
    (hnormal : ∀ definition ∈ definitions, definition.Normal) :
    ofDocument (some (fileDocument definitions)) = .ok definitions := by
  rw [ofDocument_eq_ok_iff]
  refine ⟨_, definitions.map toDocument, rfl, rfl, ?_⟩
  rw [List.forall₂_map_left_iff, List.forall₂_same]
  exact fun definition hmem => normal_iff.mp (hnormal definition hmem)

/-- A record that is built from numbers equals itself. -/
theorem same_self_of_toRecord {definition : Definition} (hnumbers : .nan ∉ definition.values)
    {name : Text} {record : Record} (hrecord : definition.toRecord name = .ok record) :
    record.same record = true := by
  unfold toRecord at hrecord
  split at hrecord
  case h_1 hvalues | h_2 hvalues =>
    cases hrecord
    rw [hvalues, List.mem_singleton] at hnumbers
    exact Binary64.equals_self fun hnan => hnumbers hnan.symm
  case h_5 hvalues =>
    obtain ⟨counts, hcounts, heq⟩ := bind_eq_ok_iff.mp hrecord
    cases heq
    have hobserves := BucketCounts.observes_ofValues hcounts
    exact hobserves.same hobserves
  all_goals cases hrecord

/-- Reading definitions is a normal form. Whatever document is accepted, there is one definition for
each entry of its metrics, in order, and it is the one that the entry declares: its name is not empty,
it has at least one value and none is not-a-number, and its labels are texts. A file that holds the
definitions is accepted and read as exactly the same definitions. Hence every record that is built from
one of them equals itself. -/
theorem definitions_are_normal_forms {document : Option Document} {definitions : List Definition}
    (hread : ofDocument document = .ok definitions) :
    (∃ entries items, document = some (.map entries) ∧
      Entries.get? entries "metrics" = some (.list items) ∧
      List.Forall₂ (fun item definition =>
        ∃ members, item = .map members ∧ Declares members definition) items definitions) ∧
    (∀ definition ∈ definitions,
      definition.name ≠ [] ∧ definition.values ≠ [] ∧ .nan ∉ definition.values) ∧
    ofDocument (some (fileDocument definitions)) = .ok definitions ∧
    ∀ definition ∈ definitions, ∀ name record, definition.toRecord name = .ok record →
      record.same record = true := by
  obtain ⟨entries, items, hdocument, hmetrics, hitems⟩ := ofDocument_eq_ok_iff.mp hread
  simp only [shape_eq_ok_iff] at hitems
  have hnormal : ∀ definition ∈ definitions, definition.Normal := by
    intro definition hmem
    obtain ⟨item, -, members, -, hdeclares⟩ := exists_of_mem_right hitems hmem
    exact hdeclares.normal
  refine ⟨⟨entries, items, hdocument, hmetrics, hitems⟩, ?_, ofDocument_fileDocument hnormal, ?_⟩
  · intro definition hmem
    have hdefinition := hnormal definition hmem
    exact ⟨hdefinition.named, hdefinition.valued, hdefinition.numbers⟩
  · intro definition hmem name record hrecord
    exact same_self_of_toRecord (hnormal definition hmem).numbers hrecord

/-- A file that spells its numbers and labels in several ways. -/
def looseDocument : Document :=
  .ofPairs [("metrics", .list [
    .ofPairs [("name", .text "up"), ("type", .text "gauge"), ("values", .list [.text " 1e3 "]),
      ("labels", .ofPairs [("zone", .text "a"), ("2", .number 7), ("ready", .bool true),
        ("__proto__", .text "lost")])],
    .ofPairs [("type", .text "histogram"), ("name", .text "wait"),
      ("values", .list [.number 3, .text "0x10"])]])]

def looseDefinitions : List Definition := [
  ⟨"up", .gauge, [1000], .ofPairs [("2", "7"), ("zone", "a"), ("ready", "true")]⟩,
  ⟨"wait", .histogram, [3, 16], .empty⟩]

theorem definitions_are_normal_forms_looseDocument :
    ofDocument (some looseDocument) = .ok looseDefinitions ∧
      ofDocument (some (fileDocument looseDefinitions)) = .ok looseDefinitions := by
  have hread : ofDocument (some looseDocument) = .ok looseDefinitions :=
    toOption_eq_some_iff.mp (by decide +kernel)
  obtain ⟨-, -, hagain, -⟩ := definitions_are_normal_forms hread
  exact ⟨hread, hagain⟩

end Definition

end ExporterAudit
