import ExporterAudit.Binary64.Numeral

/-!
Named entries in iteration order. Names that are canonical indices (`0`, `17`, below `2 ^ 32 - 1`)
come first, in ascending order; the others follow in the order of their first assignment. A later
assignment of the same name replaces the value in place.

Main statement: assignment keeps the names distinct.
-/

namespace ExporterAudit.Entries

variable {α : Type}

/-- The number of a name that is a canonical index. -/
def index? (name : Text) : Option Nat :=
  if name ≠ [] ∧ name.all Binary64.isDigit ∧ (name = ['0'] ∨ name.head? ≠ some '0') then
    some (Binary64.decimalValue name) |>.filter (· < 2 ^ 32 - 1)
  else
    none

/-- Whether an entry of the first name, assigned later, still iterates before the second. -/
def precedes (later earlier : Text) : Bool :=
  match index? later, index? earlier with
  | some i, some j => i < j
  | some _, none => true
  | none, _ => false

/-- Whether a name is among the entries. -/
def has (entries : List (Text × α)) (name : Text) : Bool :=
  entries.any (·.1 = name)

/-- The value of a name. -/
def get? (entries : List (Text × α)) (name : Text) : Option α :=
  entries.lookup name

/-- Puts a value in place of the one that a name has. -/
def replace (entries : List (Text × α)) (name : Text) (value : α) : List (Text × α) :=
  entries.map fun entry => if entry.1 = name then (name, value) else entry

/-- Puts a new name where it iterates. -/
def place (name : Text) (value : α) : List (Text × α) → List (Text × α)
  | [] => [(name, value)]
  | entry :: rest =>
    if precedes name entry.1 then
      (name, value) :: entry :: rest
    else
      entry :: place name value rest

/-- Gives a name a value. -/
def assign (entries : List (Text × α)) (name : Text) (value : α) : List (Text × α) :=
  if has entries name then replace entries name value else place name value entries

/-- The entries that a list of assignments leaves. -/
def ofPairs (pairs : List (Text × α)) : List (Text × α) :=
  pairs.foldl (fun entries (name, value) => assign entries name value) []

theorem map_fst_replace (entries : List (Text × α)) (name : Text) (value : α) :
    (replace entries name value).map Prod.fst = entries.map Prod.fst := by
  simp only [replace, List.map_map]
  refine List.map_congr_left fun entry _ => ?_
  by_cases h : entry.1 = name <;> simp [h]

/-- A name without an entry gets one of its own. Only its place depends on whether it is an index.
-/
theorem place_perm (name : Text) (value : α) (entries : List (Text × α)) :
    (place name value entries).Perm ((name, value) :: entries) := by
  induction entries with
  | nil => exact .refl _
  | cons entry rest ih =>
    unfold place
    split
    · exact .refl _
    · exact (ih.cons entry).trans (.swap _ _ _)

/-- Assignment keeps the names distinct. -/
theorem nodup_assign {entries : List (Text × α)} (h : (entries.map Prod.fst).Nodup)
    (name : Text) (value : α) : ((assign entries name value).map Prod.fst).Nodup := by
  unfold assign
  split
  · rwa [map_fst_replace]
  · next absent =>
    refine ((place_perm name value entries).map Prod.fst).nodup_iff.mpr ?_
    refine List.nodup_cons.mpr ⟨?_, h⟩
    simpa [has] using absent

end ExporterAudit.Entries
