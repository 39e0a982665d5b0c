import ExporterAudit.Binary64.Arithmetic

/-!
Two runs of numbers merged to one. What goes before what is decided by the sign of a difference, so
not-a-number and an infinity beside itself count as equal to whatever they are compared with, and
where they end up depends on which numbers are compared. Numbers go over one by one until one run
wins often in a row; then a whole stretch of it goes over at once, the end of which is looked for
in growing strides.

Main statement: merging keeps the numbers of both runs.
-/

namespace ExporterAudit.Binary64

/-- Whether a number belongs before another. -/
def isBefore (a b : Binary64) : Bool :=
  (a - b).lt 0

/-! ### The length of a stretch -/

/-- Strides from a place where a condition holds: the last place where it was found to hold, and
the first where it was found not to or the end. -/
def strides (holds : Nat → Bool) (length last next : Nat) : Nat × Nat :=
  if next < length then
    if holds next then strides holds length next (2 * next + 1) else (last, next)
  else
    (last, length)
termination_by length - next

/-- The place between two others where a condition stops to hold, by halving. Of two places in the
middle the one to try is the first if `backward` holds and the second if not. -/
def halve (holds : Nat → Bool) (backward : Bool) (left right : Nat) : Nat :=
  if left < right then
    let middle := if backward then right - 1 - (right - left) / 2 else (left + right) / 2
    if holds middle then
      halve holds backward (middle + 1) right
    else
      halve holds backward left middle
  else
    left
termination_by right - left
decreasing_by all_goals grind

/-- The length of the stretch at the start of a list on which a condition holds. -/
def stretch (holds : Binary64 → Bool) (backward : Bool) (numbers : List Binary64) : Nat :=
  let at_ (position : Nat) : Bool := numbers[position]?.any holds
  if at_ 0 then
    let (last, next) := strides at_ numbers.length 0 1
    halve at_ backward (last + 1) next
  else
    0

/-! ### Merging -/

/-- A merge in progress. The runs are taken from their starts, or from their ends if `backward`
holds; the lists are in the order in which numbers are taken. -/
structure Merging where
  backward : Bool
  /-- The numbers that went over, the latest first. -/
  merged : List Binary64 := []
  /-- The run that was set aside to make room. -/
  aside : List Binary64
  /-- The other run. -/
  other : List Binary64

namespace Merging

/-- All numbers of a merge. -/
def numbers (m : Merging) : List Binary64 :=
  m.merged ++ (m.aside ++ m.other)

/-- Whether a number of the other run goes before one that was set aside. -/
def leads (m : Merging) (other aside : Binary64) : Bool :=
  if m.backward then isBefore aside other else isBefore other aside

def takeAside (count : Nat) (m : Merging) : Merging :=
  { m with merged := (m.aside.take count).reverse ++ m.merged, aside := m.aside.drop count }

def takeOther (count : Nat) (m : Merging) : Merging :=
  { m with merged := (m.other.take count).reverse ++ m.merged, other := m.other.drop count }

/-- Whether nothing is left to compare: the last number set aside comes after all others. -/
def isOver (m : Merging) : Bool :=
  m.other.isEmpty || m.aside.length ≤ 1

/-- The length of the stretch set aside that goes before the next number of the other run. -/
def asideStretch (m : Merging) : Nat :=
  match m.other with
  | [] => 0
  | key :: _ => stretch (fun number => !m.leads key number) m.backward m.aside

/-- The length of the stretch of the other run that goes before the next number set aside. -/
def otherStretch (m : Merging) : Nat :=
  match m.aside with
  | [] => 0
  | key :: _ => stretch (fun number => m.leads number key) m.backward m.other

/-- A step of a merge that is not over. -/
def unlessOver (step : Merging → Merging) (m : Merging) : Merging :=
  if m.isOver then m else step m

/-- A stretch of the run that stood first in the list and the next number of the other, then the
same the other way round; and the length of the longer stretch. -/
def stretches (m : Merging) : Merging × Nat :=
  if m.backward then
    let first := m.otherStretch
    let half := (m.takeOther first).unlessOver (takeAside 1)
    let second := half.asideStretch
    ((half.unlessOver (takeAside second)).unlessOver (takeOther 1), max first second)
  else
    let first := m.asideStretch
    let half := (m.takeAside first).unlessOver (takeOther 1)
    let second := half.otherStretch
    ((half.unlessOver (takeOther second)).unlessOver (takeAside 1), max first second)

/-- The length from which stretches are worth looking for. -/
def worthwhile : Nat := 7

/-- How numbers go over. -/
inductive Pace where
  /-- One by one; how often each run has won in a row. -/
  | singly (asideWins otherWins : Nat)
  | inStretches

/-- Merges until nothing is left to compare. Stretches are looked for after `patience` wins in a
row; that number falls while they are worthwhile, and rises when they are not. Each step takes a
number, so their count is fuel enough. -/
def run : (fuel patience : Nat) → Pace → Merging → Merging × Nat
  | 0, patience, _, m => (m, patience)
  | fuel + 1, patience, .singly asideWins otherWins, m =>
    match m.aside, m.other with
    | aside :: _, other :: _ =>
      let otherLeads := m.leads other aside
      let next := if otherLeads then m.takeOther 1 else m.takeAside 1
      let asideWins := if otherLeads then 0 else asideWins + 1
      let otherWins := if otherLeads then otherWins + 1 else 0
      if next.isOver then (next, patience)
      else if patience ≤ max asideWins otherWins then run fuel patience .inStretches next
      else run fuel patience (.singly asideWins otherWins) next
    | _, _ => (m, patience)
  | fuel + 1, patience, .inStretches, m =>
    let (next, longest) := m.stretches
    if next.isOver then (next, patience)
    else if worthwhile ≤ longest then run fuel (max 1 (patience - 1)) .inStretches next
    else run fuel (patience + 1) (.singly 0 0) next

/-- The merged run. -/
def result (m : Merging) : List Binary64 :=
  let taken := m.merged.reverse ++ (m.other ++ m.aside)
  if m.backward then taken.reverse else taken

/-- The whole merge: the first number taken is known to come from the other run. -/
def merge (m : Merging) (patience : Nat) : List Binary64 × Nat :=
  let started := m.takeOther 1
  let (done, patience) :=
    if started.isOver then (started, patience)
    else run started.numbers.length patience (.singly 0 0) started
  (done.result, patience)

end Merging

/-- How many numbers at the start of a run are in place before the run after it. -/
def placedAtStart (first second : List Binary64) : Nat :=
  match second with
  | [] => first.length
  | key :: _ => stretch (fun number => !isBefore key number) false first

/-- How many numbers at the end of a run are in place after the run before it. -/
def placedAtEnd (first second : List Binary64) : Nat :=
  match first.getLast? with
  | none => second.length
  | some key => stretch (fun number => !isBefore number key) true second.reverse

/-- Merges two neighbouring runs in which no number at the outer ends is in place; the shorter one
is set aside. -/
def mergeInner (first second : List Binary64) (patience : Nat) : List Binary64 × Nat :=
  if first.isEmpty || second.isEmpty then
    (first ++ second, patience)
  else if first.length ≤ second.length then
    Merging.merge { backward := false, aside := first, other := second } patience
  else
    Merging.merge { backward := true, aside := second.reverse, other := first.reverse } patience

/-- Merges two neighbouring runs. -/
def mergeRuns (first second : List Binary64) (patience : Nat) : List Binary64 × Nat :=
  let start := placedAtStart first second
  let left := first.drop start
  let length := second.length - placedAtEnd left second
  let (merged, patience) := mergeInner left (second.take length) patience
  (first.take start ++ (merged ++ second.drop length), patience)

/-! ### Merging keeps the numbers -/

namespace Merging

theorem takeAside_perm (count : Nat) (m : Merging) :
    (m.takeAside count).numbers.Perm m.numbers := by
  have moved : ((m.aside.take count).reverse ++ m.merged).Perm
      (m.merged ++ m.aside.take count) :=
    ((List.reverse_perm _).append_right _).trans List.perm_append_comm
  refine (moved.append_right (m.aside.drop count ++ m.other)).trans (.of_eq ?_)
  rw [List.append_assoc, ← List.append_assoc (m.aside.take count), List.take_append_drop]
  rfl

theorem takeOther_perm (count : Nat) (m : Merging) :
    (m.takeOther count).numbers.Perm m.numbers := by
  have moved : ((m.other.take count).reverse ++ m.merged).Perm
      (m.merged ++ m.other.take count) :=
    ((List.reverse_perm _).append_right _).trans List.perm_append_comm
  refine (moved.append_right (m.aside ++ m.other.drop count)).trans ?_
  rw [List.append_assoc]
  refine .append_left _ ?_
  rw [← List.append_assoc]
  refine (List.perm_append_comm.append_right _).trans (.of_eq ?_)
  rw [List.append_assoc, List.take_append_drop]

/-- A step that keeps the numbers keeps them also if it is left out once a run is used up. -/
theorem unlessOver_perm {step : Merging → Merging} (m : Merging)
    (keeps : (step m).numbers.Perm m.numbers) : (m.unlessOver step).numbers.Perm m.numbers := by
  unfold unlessOver
  split
  · exact .refl _
  · exact keeps

/-- Both searches for the end of a stretch only decide how many numbers go over at once. -/
theorem stretches_perm (m : Merging) : m.stretches.1.numbers.Perm m.numbers := by
  unfold stretches
  split
  · exact (unlessOver_perm _ (takeOther_perm _ _)).trans
      ((unlessOver_perm _ (takeAside_perm _ _)).trans
        ((unlessOver_perm _ (takeAside_perm _ _)).trans (takeOther_perm _ _)))
  · exact (unlessOver_perm _ (takeAside_perm _ _)).trans
      ((unlessOver_perm _ (takeOther_perm _ _)).trans
        ((unlessOver_perm _ (takeOther_perm _ _)).trans (takeAside_perm _ _)))

/-- Each round of a merge keeps the numbers, at either pace. -/
theorem run_perm (fuel patience : Nat) (pace : Pace) (m : Merging) :
    (run fuel patience pace m).1.numbers.Perm m.numbers := by
  induction fuel generalizing patience pace m with
  | zero => cases pace <;> exact .refl _
  | succ fuel ih =>
    cases pace with
    | inStretches =>
      simp only [run]
      split
      · exact stretches_perm m
      · split <;> exact (ih ..).trans (stretches_perm m)
    | singly asideWins otherWins =>
      unfold run
      split
      · next aside _ other _ _ _ =>
        cases m.leads other aside <;> simp only [Bool.false_eq_true, if_true, if_false]
        · split
          · exact takeAside_perm 1 m
          · split <;> exact (ih ..).trans (takeAside_perm 1 m)
        · split
          · exact takeOther_perm 1 m
          · split <;> exact (ih ..).trans (takeOther_perm 1 m)
      · exact .refl _

theorem result_perm (m : Merging) : m.result.Perm m.numbers := by
  have taken : (m.merged.reverse ++ (m.other ++ m.aside)).Perm m.numbers :=
    (List.reverse_perm _).append List.perm_append_comm
  unfold result
  dsimp only
  split
  · exact (List.reverse_perm _).trans taken
  · exact taken

theorem merge_perm (m : Merging) (patience : Nat) :
    (m.merge patience).1.Perm m.numbers := by
  unfold merge
  dsimp only
  split
  · exact (result_perm _).trans (takeOther_perm 1 m)
  · exact (result_perm _).trans ((run_perm ..).trans (takeOther_perm 1 m))

end Merging

/-- Taken from their ends both runs are read backwards, which keeps their numbers. -/
theorem mergeInner_perm (first second : List Binary64) (patience : Nat) :
    (mergeInner first second patience).1.Perm (first ++ second) := by
  unfold mergeInner
  split
  · exact .refl _
  · split
    · exact Merging.merge_perm ..
    · refine (Merging.merge_perm ..).trans ?_
      exact ((List.reverse_perm _).append (List.reverse_perm _)).trans List.perm_append_comm

/-- Merging keeps the numbers of both runs. -/
theorem mergeRuns_perm (first second : List Binary64) (patience : Nat) :
    (mergeRuns first second patience).1.Perm (first ++ second) := by
  have whole (m n : Nat) : first.take m ++ ((first.drop m ++ second.take n) ++ second.drop n) =
      first ++ second := by
    rw [List.append_assoc, List.take_append_drop, ← List.append_assoc, List.take_append_drop]
  exact (((mergeInner_perm ..).append_right _).append_left _).trans (.of_eq (whole _ _))

end ExporterAudit.Binary64
