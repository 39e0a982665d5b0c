import ExporterAudit.Binary64.Merging

/-!
Numbers in ascending order. A list is cut into runs: stretches that ascend, or descend and are
turned round; short ones are filled up by insertion. Neighbouring runs are merged in such an order
that their lengths stay balanced.

Main statement: the result holds the same numbers.
-/

namespace ExporterAudit.Binary64

/-! ### Runs -/

/-- The length of the longest beginning of a list, after one number, in which each number relates
to the one before it as the first two do. -/
def runLength (descending : Bool) (last : Binary64) : List Binary64 → Nat
  | [] => 0
  | next :: rest =>
    if isBefore next last = descending then runLength descending next rest + 1 else 0

/-- The run at the start of a list in ascending order, and the rest. -/
def firstRun : List Binary64 → List Binary64 × List Binary64
  | first :: second :: rest =>
    let descending := isBefore second first
    let length := runLength descending second rest
    let run := first :: second :: rest.take length
    (if descending then run.reverse else run, rest.drop length)
  | numbers => (numbers, [])

/-- Where a number goes into a sorted list, between two positions. -/
def insertionPoint (sorted : List Binary64) (number : Binary64) (left right : Nat) : Nat :=
  if left < right then
    let middle := (left + right) / 2
    if isBefore number (sorted.getD middle .nan) then
      insertionPoint sorted number left middle
    else
      insertionPoint sorted number (middle + 1) right
  else
    left
termination_by right - left

/-- Puts a number after those of a sorted list that it does not belong before. -/
def insertAscending (sorted : List Binary64) (number : Binary64) : List Binary64 :=
  let position := insertionPoint sorted number 0 sorted.length
  sorted.take position ++ number :: sorted.drop position

/-- The least length of a run in a list of `count` numbers: the whole of a short list, otherwise
32 to 64 such that the number of runs is close to a power of two. -/
def leastRun (carry count : Nat) : Nat :=
  if count < 64 then count + carry else leastRun (max carry (count % 2)) (count / 2)
termination_by count

/-- The run at the start of a list, filled up to a length if there are numbers enough, and the
rest. -/
def filledRun (least : Nat) (numbers : List Binary64) : List Binary64 × List Binary64 :=
  let (run, rest) := firstRun numbers
  let missing := least - run.length
  ((rest.take missing).foldl insertAscending run, rest.drop missing)

/-! ### Balanced merging -/

/-- The runs that wait to be merged, the latest first, and after how many wins in a row a merge
looks for stretches. -/
structure Pending where
  runs : List (List Binary64) := []
  patience : Nat := Merging.worthwhile

namespace Pending

/-- Merges the latest two runs. -/
def mergeLatest (pending : Pending) : Pending :=
  match pending.runs with
  | latest :: second :: rest =>
    let (merged, patience) := mergeRuns second latest pending.patience
    { runs := merged :: rest, patience }
  | _ => pending

/-- Merges the two runs before the latest. -/
def mergeEarlier (pending : Pending) : Pending :=
  match pending.runs with
  | latest :: second :: third :: rest =>
    let (merged, patience) := mergeRuns third second pending.patience
    { runs := latest :: merged :: rest, patience }
  | _ => pending

/-- Merges the second latest run with the shorter one of its neighbours. -/
def mergeShorter (pending : Pending) : Pending :=
  match pending.runs with
  | latest :: _ :: third :: _ =>
    if third.length < latest.length then pending.mergeEarlier else pending.mergeLatest
  | _ => pending.mergeLatest

/-- Whether each of the latest runs is longer than the two after it together. -/
def isBalanced : List (List Binary64) → Bool
  | latest :: second :: third :: rest =>
    second.length + latest.length < third.length &&
      rest.head?.all fun fourth => third.length + second.length < fourth.length
  | _ => true

/-- Merges runs until the latest are balanced and get longer towards the start of the list. Each
merge leaves one run less, so their count is fuel enough. -/
def balance : (fuel : Nat) → Pending → Pending
  | 0, pending => pending
  | fuel + 1, pending =>
    match pending.runs with
    | latest :: second :: _ =>
      if !isBalanced pending.runs then balance fuel pending.mergeShorter
      else if second.length ≤ latest.length then balance fuel pending.mergeLatest
      else pending
    | _ => pending

/-- Merges all runs. -/
def mergeAll : (fuel : Nat) → Pending → Pending
  | 0, pending => pending
  | fuel + 1, pending =>
    if pending.runs.length ≤ 1 then pending else mergeAll fuel pending.mergeShorter

/-- Adds a run. -/
def add (pending : Pending) (run : List Binary64) : Pending :=
  balance (pending.runs.length + 1) { pending with runs := run :: pending.runs }

/-- Adds the runs of a list. Each takes a number, so their count is fuel enough. -/
def addRuns (least : Nat) : (fuel : Nat) → List Binary64 → Pending → Pending
  | _, [], pending => pending
  | 0, numbers, pending => pending.add numbers
  | fuel + 1, first :: numbers, pending =>
    let (run, rest) := filledRun least (first :: numbers)
    addRuns least fuel rest (pending.add run)

/-- The numbers of all runs, in the order of the list. -/
def numbers (pending : Pending) : List Binary64 :=
  pending.runs.reverse.flatten

end Pending

/-- The numbers in ascending order. -/
def ascending (numbers : List Binary64) : List Binary64 :=
  let pending := Pending.addRuns (leastRun 0 numbers.length) numbers.length numbers {}
  (Pending.mergeAll pending.runs.length pending).numbers

/-! ### Sorting keeps the numbers -/

/-- Insertion adds one number and loses none, wherever the number goes. -/
theorem insertAscending_perm (sorted : List Binary64) (number : Binary64) :
    (insertAscending sorted number).Perm (number :: sorted) := by
  unfold insertAscending
  refine List.perm_middle.trans ?_
  rw [List.take_append_drop]

theorem foldl_insertAscending_perm (numbers sorted : List Binary64) :
    (numbers.foldl insertAscending sorted).Perm (sorted ++ numbers) := by
  induction numbers generalizing sorted with
  | nil => simp
  | cons number rest ih =>
    refine (ih _).trans ?_
    exact ((insertAscending_perm sorted number).append_right rest).trans List.perm_middle.symm

/-- A run is cut from the front. A descending one is turned round, so its numbers only change
places. -/
theorem firstRun_perm (numbers : List Binary64) :
    ((firstRun numbers).1 ++ (firstRun numbers).2).Perm numbers := by
  unfold firstRun
  split
  · next first second rest =>
    have whole (n : Nat) :
        first :: second :: rest.take n ++ rest.drop n = first :: second :: rest := by simp
    dsimp only
    split
    · exact ((List.reverse_perm _).append_right _).trans (.of_eq (whole _))
    · exact .of_eq (whole _)
  · simp

/-- Filling up a short run takes numbers from the rest, one by one. -/
theorem filledRun_perm (least : Nat) (numbers : List Binary64) :
    ((filledRun least numbers).1 ++ (filledRun least numbers).2).Perm numbers := by
  unfold filledRun
  dsimp only
  refine ((foldl_insertAscending_perm _ _).append_right _).trans ?_
  rw [List.append_assoc, List.take_append_drop]
  exact firstRun_perm numbers

namespace Pending

theorem mergeLatest_perm (pending : Pending) :
    pending.mergeLatest.numbers.Perm pending.numbers := by
  unfold mergeLatest
  split
  · next latest second rest runs =>
    simp only [numbers, runs, List.reverse_cons, List.flatten_append, List.append_assoc]
    refine .append_left _ ?_
    simpa using mergeRuns_perm second latest pending.patience
  · exact .refl _

theorem mergeEarlier_perm (pending : Pending) :
    pending.mergeEarlier.numbers.Perm pending.numbers := by
  unfold mergeEarlier
  split
  · next latest second third rest runs =>
    simp only [numbers, runs, List.reverse_cons, List.flatten_append, List.append_assoc]
    refine .append_left _ ?_
    simpa using (mergeRuns_perm third second pending.patience).append_right latest
  · exact .refl _

theorem mergeShorter_perm (pending : Pending) :
    pending.mergeShorter.numbers.Perm pending.numbers := by
  unfold mergeShorter
  split
  · split
    · exact mergeEarlier_perm pending
    · exact mergeLatest_perm pending
  · exact mergeLatest_perm pending

/-- Balancing is a sequence of merges, whichever runs their lengths call for. -/
theorem balance_perm (fuel : Nat) (pending : Pending) :
    (balance fuel pending).numbers.Perm pending.numbers := by
  induction fuel generalizing pending with
  | zero => exact .refl _
  | succ fuel ih =>
    unfold balance
    split
    · split
      · exact (ih _).trans (mergeShorter_perm pending)
      · split
        · exact (ih _).trans (mergeLatest_perm pending)
        · exact .refl _
    · exact .refl _

theorem mergeAll_perm (fuel : Nat) (pending : Pending) :
    (mergeAll fuel pending).numbers.Perm pending.numbers := by
  induction fuel generalizing pending with
  | zero => exact .refl _
  | succ fuel ih =>
    unfold mergeAll
    split
    · exact .refl _
    · exact (ih _).trans (mergeShorter_perm pending)

theorem add_perm (pending : Pending) (run : List Binary64) :
    (pending.add run).numbers.Perm (pending.numbers ++ run) := by
  refine (balance_perm _ _).trans (.of_eq ?_)
  simp [numbers]

/-- Each run that is cut off joins the pending ones, until nothing is left. -/
theorem addRuns_perm (least fuel : Nat) (rest : List Binary64) (pending : Pending) :
    (addRuns least fuel rest pending).numbers.Perm (pending.numbers ++ rest) := by
  induction fuel generalizing rest pending with
  | zero =>
    cases rest with
    | nil => simp [addRuns]
    | cons first rest => exact add_perm pending (first :: rest)
  | succ fuel ih =>
    cases rest with
    | nil => simp [addRuns]
    | cons first rest =>
      refine (ih _ _).trans (((add_perm _ _).append_right _).trans ?_)
      rw [List.append_assoc]
      exact (filledRun_perm least (first :: rest)).append_left _

end Pending

/-- Sorting keeps the numbers. -/
theorem ascending_perm (numbers : List Binary64) : (ascending numbers).Perm numbers :=
  (Pending.mergeAll_perm _ _).trans (Pending.addRuns_perm _ _ _ _)

end ExporterAudit.Binary64
