import ExporterAudit.Shape
import Mathlib.Data.List.Forall2

/-!
What it takes for a shape to read a value: each part of the document that it looks at is read.
-/

namespace ExporterAudit

variable {α β : Type}

namespace Checked

theorem map_eq_ok_iff {part : Checked α} {f : α → β} {value : β} :
    part.map f = .ok value ↔ ∃ first, part = .ok first ∧ f first = value := by
  cases part <;> simp [map]

theorem fmap_eq_ok_iff {part : Checked α} {f : α → β} {value : β} :
    f <$> part = .ok value ↔ ∃ first, part = .ok first ∧ f first = value :=
  map_eq_ok_iff

/-- Two parts are read together if each is read. Their problems add up otherwise, so neither hides
those of the other. -/
theorem both_eq_ok_iff {a : Checked α} {b : Checked β} {value : α × β} :
    a.both b = .ok value ↔ a = .ok value.1 ∧ b = .ok value.2 := by
  cases a <;> cases b <;> simp [both, Prod.ext_iff]

theorem seq_eq_ok_iff {f : Checked (α → β)} {part : Checked α} {value : β} :
    f <*> part = .ok value ↔ ∃ g first, f = .ok g ∧ part = .ok first ∧ g first = value := by
  change (f.both part).map _ = _ ↔ _
  simp only [map_eq_ok_iff, both_eq_ok_iff, Prod.exists, and_assoc]

/-- Saying where a problem is does not make one. -/
theorem under_eq_ok_iff {step : Text} {part : Checked α} {value : α} :
    part.under step = .ok value ↔ part = .ok value := by
  cases part <;> simp [under]

theorem all_cons_eq_ok_iff {part : Checked α} {parts : List (Checked α)} {values : List α} :
    all (part :: parts) = .ok values ↔
      ∃ value rest, part = .ok value ∧ all parts = .ok rest ∧ value :: rest = values := by
  simp only [all, map_eq_ok_iff, both_eq_ok_iff, Prod.exists, and_assoc]

/-- All parts succeed, one value each. -/
theorem all_eq_ok_iff {parts : List (Checked α)} {values : List α} :
    all parts = .ok values ↔ List.Forall₂ (fun part value => part = .ok value) parts values := by
  induction parts generalizing values with
  | nil =>
    rw [List.forall₂_nil_left_iff]
    exact ⟨fun hnone => (ok.inj hnone).symm, fun hnone => hnone ▸ rfl⟩
  | cons part parts ih =>
    rw [all_cons_eq_ok_iff, List.forall₂_cons_left_iff]
    constructor
    · rintro ⟨value, rest, hpart, hrest, rfl⟩
      exact ⟨value, rest, hpart, ih.mp hrest, rfl⟩
    · rintro ⟨value, rest, hpart, hrest, rfl⟩
      exact ⟨value, rest, hpart, ih.mpr hrest, rfl⟩

/-- Conditions are looked at only if the part is read, and then all of them must hold. -/
theorem ensure_eq_ok_iff {conditions : List (Text × (α → Bool))} {part : Checked α} {value : α} :
    part.ensure conditions = .ok value ↔
      part = .ok value ∧ ∀ condition ∈ conditions, condition.2 value = true := by
  cases part with
  | bad problems => simp [ensure]
  | ok first =>
    rw [ensure]
    split
    · next hnone =>
      have hall : ∀ condition ∈ conditions, condition.2 first = true := by
        simpa [List.filter_eq_nil_iff] using hnone
      constructor
      · rintro ⟨⟩
        exact ⟨rfl, hall⟩
      · exact And.left
    · next hsome =>
      constructor
      · rintro ⟨⟩
      · rintro ⟨⟨⟩, hall⟩
        refine absurd ?_ hsome
        simpa [List.filter_eq_nil_iff] using hall

theorem toExcept_eq_ok_iff {part : Checked α} {value : α} : part.toExcept = .ok value ↔ part = .ok value := by
  cases part <;> simp [toExcept]

end Checked

namespace Shape

open Checked

/-- A field that is missing is read by its shape too, which may accept that. -/
theorem field_eq_ok_iff {entries : List (Text × Document)} {name : Text} {shape : Shape α} {value : α} :
    field entries name shape = .ok value ↔ shape (Entries.get? entries name) = .ok value :=
  under_eq_ok_iff

/-- Only a map has fields. -/
theorem object_eq_ok_iff {read : List (Text × Document) → Checked α} {place : Option Document}
    {value : α} :
    object read place = .ok value ↔ ∃ entries, place = some (.map entries) ∧ read entries = .ok value := by
  rcases place with _ | _ | _ | _ | _ | _ | _ <;> simp [object, unexpected, refuse]

theorem text_eq_ok_iff {place : Option Document} {value : Text} :
    text place = .ok value ↔ place = some (.text value) := by
  rcases place with _ | _ | _ | _ | _ | _ | _ <;> simp [text, unexpected, refuse]

theorem nonemptyText_eq_ok_iff {place : Option Document} {value : Text} :
    nonemptyText place = .ok value ↔ place = some (.text value) ∧ value ≠ [] := by
  simp [nonemptyText, ensure_eq_ok_iff, text_eq_ok_iff]

theorem choice_eq_ok_iff {names : List (Text × α)} {place : Option Document} {value : α} :
    choice names place = .ok value ↔
      ∃ name, place = some (.text name) ∧ names.lookup name = some value := by
  rcases place with _ | _ | _ | _ | name | _ | _
  case some.text => cases hfound : names.lookup name <;> simp [choice, hfound, refuse]
  all_goals simp [choice, unexpected, refuse]

/-- The place of an item only shows in its problems. -/
theorem forall₂_itemsFrom_iff {item : Shape α} {position : Nat} {items : List Document}
    {values : List α} :
    List.Forall₂ (fun part value => part = .ok value) (itemsFrom item position items) values ↔
      List.Forall₂ (fun document value => item (some document) = .ok value) items values := by
  induction items generalizing position values with
  | nil => rw [itemsFrom, List.forall₂_nil_left_iff, List.forall₂_nil_left_iff]
  | cons first others ih =>
    simp only [itemsFrom, List.forall₂_cons_left_iff, under_eq_ok_iff, ih]

/-- The items of a list are read one by one. -/
theorem list_eq_ok_iff {item : Shape α} {place : Option Document} {values : List α} :
    list item place = .ok values ↔ ∃ items, place = some (.list items) ∧
      List.Forall₂ (fun document value => item (some document) = .ok value) items values := by
  rcases place with _ | _ | _ | _ | _ | items | _
  case some.list => simp [list, all_eq_ok_iff, forall₂_itemsFrom_iff]
  all_goals simp [list, unexpected, refuse]

theorem nonemptyList_eq_ok_iff {item : Shape α} {place : Option Document} {values : List α} :
    nonemptyList item place = .ok values ↔ ∃ items, place = some (.list items) ∧ items ≠ [] ∧
      List.Forall₂ (fun document value => item (some document) = .ok value) items values := by
  unfold nonemptyList
  split
  · simp [refuse]
  · next hfilled =>
    rw [list_eq_ok_iff]
    constructor
    · rintro ⟨items, rfl, hitems⟩
      exact ⟨items, rfl, fun hnone => hfilled (hnone ▸ rfl), hitems⟩
    · rintro ⟨items, rfl, -, hitems⟩
      exact ⟨items, rfl, hitems⟩

/-- A map passes if each of its values does, whatever their names. -/
theorem mapOf_eq_ok_iff {value : Shape α} {place : Option Document} {pairs : List (Text × α)} :
    mapOf value place = .ok pairs ↔ ∃ entries, place = some (.map entries) ∧
      List.Forall₂ (fun entry pair => entry.1 = pair.1 ∧ value (some entry.2) = .ok pair.2)
        entries pairs := by
  rcases place with _ | _ | _ | _ | _ | _ | entries
  case some.map =>
    have hentry (entry : Text × Document) (pair : Text × α) :
        ((value (some entry.2)).under entry.1).map (entry.1, ·) = .ok pair ↔
          entry.1 = pair.1 ∧ value (some entry.2) = .ok pair.2 := by
      rw [Checked.map_eq_ok_iff]
      constructor
      · rintro ⟨text, htext, rfl⟩
        exact ⟨rfl, under_eq_ok_iff.mp htext⟩
      · rintro ⟨hname, htext⟩
        exact ⟨pair.2, under_eq_ok_iff.mpr htext, Prod.ext hname rfl⟩
    simp [mapOf, all_eq_ok_iff, List.forall₂_map_left_iff, hentry]
  all_goals simp [mapOf, unexpected, refuse]

/-- Labels are put together from the pairs one by one, so a later pair replaces an earlier one of
the same name. -/
theorem labels_eq_ok_iff {value : Shape Text} {place : Option Document} {labels : Labels} :
    Shape.labels value place = .ok labels ↔ ∃ pairs, mapOf value place = .ok pairs ∧
      pairs.foldl (fun labels (name, value) => labels.assign name value) .empty = labels :=
  Checked.map_eq_ok_iff

end Shape

end ExporterAudit
