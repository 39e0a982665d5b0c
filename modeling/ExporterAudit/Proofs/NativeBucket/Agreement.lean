import ExporterAudit.Proofs.BucketCounts.Sums
import ExporterAudit.Proofs.Success
import ExporterAudit.QueryServer

/-!
Native rows against cumulative buckets. A row has its own count and a cumulative bucket the total up to
it, so the one way to a histogram adds the counts as they are given and the other way adds differences
of totals. Totals that the format holds differ by exactly the counts, so both ways lead to the same
buckets in the same order, or fail at the same row.
-/

namespace ExporterAudit

namespace BucketCounts

open Binary64

/-- No bucket counts the negative zero. -/
def Unsigned (counts : BucketCounts) : Prop :=
  ∀ bucket, counts.get? bucket ≠ some (zero true)

theorem unsigned_empty : Unsigned .empty :=
  fun _ hzero => by cases hzero

variable {counts : BucketCounts}

/-- A missing count is a positive zero, like any count of zero. -/
theorem Unsigned.getD_ne (hunsigned : counts.Unsigned) (bucket : Binary64) :
    (counts.get? bucket).getD 0 ≠ zero true := by
  cases hget : counts.get? bucket with
  | none =>
    rw [Option.getD_none, zero_eq]
    exact fun hzero => by cases hzero
  | some count =>
    rintro rfl
    exact hunsigned bucket hget

/-- A sum is a negative zero only if both parts are, and the count so far is none. -/
theorem Unsigned.add (hunsigned : counts.Unsigned) (bucket amount : Binary64) :
    (counts.add bucket amount).Unsigned := by
  intro other
  rw [BucketCounts.add, get?_insert]
  split
  · exact fun hzero => add_ne_negativeZero (hunsigned.getD_ne bucket) amount (Option.some.inj hzero)
  · exact hunsigned other

/-- Two numbers for the same integer can only differ as zeros, and added to a count that is no
negative zero they do not. -/
theorem Unsigned.add_eq_of_isInt (hunsigned : counts.Unsigned) (bucket : Binary64)
    {amount other : Binary64} {n : Int} (hamount : amount.IsInt n) (hother : other.IsInt n)
    (hfinite : amount.isFinite = true) (hotherFinite : other.isFinite = true) :
    counts.add bucket amount = counts.add bucket other := by
  rw [BucketCounts.add, BucketCounts.add,
    Binary64.add_eq_of_isInt (hunsigned.getD_ne bucket) hamount hother hfinite hotherFinite]

end BucketCounts

namespace NativeBucket

open Binary64 BucketCounts

/-- The totals after each of the numbers. -/
def runningTotals : (before : Int) → List Int → List Int
  | _, [] => []
  | before, number :: rest => (before + number) :: runningTotals (before + number) rest

/-- Cumulative buckets with the bounds of the rows, each with the total of the counts up to it. -/
def toCumulative : (before : Binary64) → List NativeBucket → List CumulativeBucket
  | _, [] => []
  | before, row :: rest => ⟨row.upper, before + row.count⟩ :: toCumulative (before + row.count) rest

/-- The row counts an integer. -/
def Counts (row : NativeBucket) (number : Int) : Prop :=
  row.count.isFinite = true ∧ row.count.IsInt number

instance : DecidableRel Counts := fun row number =>
  inferInstanceAs (Decidable (row.count.isFinite = true ∧ row.count.IsInt number))

/-- A total is the one before it and a count, and the count is the difference of the two. -/
theorem Counts.total {row : NativeBucket} {number : Int} (hcounts : row.Counts number)
    {before : Binary64} {total : Int} (hbefore : before.IsInt total) (hfinite : before.isFinite = true)
    (hsmall : (total + number).natAbs < 2 ^ 53) :
    ((before + row.count).isFinite = true ∧ (before + row.count).IsInt (total + number)) ∧
      (before + row.count - before).isFinite = true ∧
      (before + row.count - before).IsInt number := by
  have hsum := hbefore.add_of_representable hcounts.2 hfinite hcounts.1
    (representable_of_natAbs_lt hsmall)
  have hdifference := hsum.2.sub_of_representable hbefore hsum.1 hfinite
    (by rw [add_sub_cancel_left]; exact ⟨_, hcounts⟩)
  rw [add_sub_cancel_left] at hdifference
  exact ⟨hsum, hdifference⟩

/-- Adding the counts of rows adds the differences of their totals. -/
theorem addAll_occupancy {rows : List NativeBucket} {numbers : List Int}
    (hcounts : List.Forall₂ Counts rows numbers) {before : Binary64} {total : Int}
    (hbefore : before.IsInt total) (hfinite : before.isFinite = true)
    (hsmall : ∀ later ∈ runningTotals total numbers, later.natAbs < 2 ^ 53)
    {counts : BucketCounts} (hunsigned : counts.Unsigned) :
    counts.addAll (CumulativeBucket.occupancy before (toCumulative before rows)) =
      counts.addAll (rows.map fun row => (row.upper - 1, row.count)) := by
  induction hcounts generalizing before total counts with
  | nil => rfl
  | @cons row number rows numbers hfirst hrest ih =>
    obtain ⟨htotalSmall, hlater⟩ := List.forall_mem_cons.mp hsmall
    obtain ⟨⟨htotalFinite, htotal⟩, hdifferenceFinite, hdifference⟩ :=
      hfirst.total hbefore hfinite htotalSmall
    rw [toCumulative, CumulativeBucket.occupancy, List.map_cons]
    cases hbucket : Bucket.ofValue (row.upper - 1) with
    | error failure => rw [addAll_cons_of_error hbucket, addAll_cons_of_error hbucket]
    | ok bucket =>
      have hadd : counts.add bucket (before + row.count - before) = counts.add bucket row.count :=
        hunsigned.add_eq_of_isInt bucket hdifference hfirst.2 hdifferenceFinite hfirst.1
      rw [addAll_cons hbucket, addAll_cons hbucket, hadd]
      exact ih htotal htotalFinite hlater (hunsigned.add bucket row.count)

/-- The running totals are exact as long as they have 53 bits. -/
theorem isInt_toCumulative {rows : List NativeBucket} {numbers : List Int}
    (hcounts : List.Forall₂ Counts rows numbers) {before : Binary64} {total : Int}
    (hbefore : before.IsInt total) (hfinite : before.isFinite = true)
    (hsmall : ∀ later ∈ runningTotals total numbers, later.natAbs < 2 ^ 53) :
    List.Forall₂ (fun bucket later => bucket.count.IsInt later) (toCumulative before rows)
      (runningTotals total numbers) := by
  induction hcounts generalizing before total with
  | nil => exact .nil
  | cons hfirst hrest ih =>
    obtain ⟨htotalSmall, hlater⟩ := List.forall_mem_cons.mp hsmall
    obtain ⟨⟨htotalFinite, htotal⟩, -⟩ := hfirst.total hbefore hfinite htotalSmall
    exact .cons htotal (ih htotal htotalFinite hlater)

/-- Rows of integer counts whose totals stay below `2 ^ 53` are rebuilt like cumulative buckets with
these totals, which are exact. If every upper bound leaves a bucket below it, both ways give the same
buckets in the same order with the same counts. Otherwise the first row whose bound leaves none decides
for both: they fail and tell the value below the bound if it is not positive and finite, and if it is,
it lies beyond the end of the search for octaves and neither comes to an end. -/
theorem agrees_with_cumulative {rows : List NativeBucket} {numbers : List Int}
    (hcounts : List.Forall₂ Counts rows numbers)
    (hsmall : ∀ total ∈ runningTotals 0 numbers, total.natAbs < 2 ^ 53) (name : Text) :
    List.Forall₂ (fun bucket total => bucket.count.IsInt total) (toCumulative 0 rows)
      (runningTotals 0 numbers) ∧
    match rows.find? fun row => !Bucket.isCounted (row.upper - 1) with
    | none => ∃ counts, toCounts rows = .ok counts ∧
        Record.ofCumulative name (toCumulative 0 rows) = .ok (.histogram name counts)
    | some row => ∃ failure, toCounts rows = .error failure ∧
        Record.ofCumulative name (toCumulative 0 rows) = .error failure ∧
        (¬ ((row.upper - 1).isFinite = true ∧ lt 0 (row.upper - 1) = true) →
          failure = .invalidBucketValue (row.upper - 1)) ∧
        ((row.upper - 1).isFinite = true ∧ lt 0 (row.upper - 1) = true →
          lt (row.upper - 1) Bucket.searchEnd = false ∧ failure = .endless (row.upper - 1)) := by
  have hzero : (0 : Binary64).isFinite = true := isInt_zero.isFinite (by decide)
  have hsame : BucketCounts.empty.addAll (CumulativeBucket.occupancy 0 (toCumulative 0 rows)) =
      toCounts rows := addAll_occupancy hcounts isInt_zero hzero hsmall unsigned_empty
  have houtcome := BucketCounts.empty.addAll_outcome
    (rows.map fun row => (row.upper - 1, row.count))
  rw [List.find?_map, Function.comp_def] at houtcome
  refine ⟨isInt_toCumulative hcounts isInt_zero hzero hsmall, ?_⟩
  rw [Record.ofCumulative, hsame]
  cases hfirst : rows.find? fun row => !Bucket.isCounted (row.upper - 1) with
  | none =>
    rw [hfirst] at houtcome
    obtain ⟨counts, hadded⟩ := houtcome
    have hrebuilt : toCounts rows = .ok counts := hadded
    exact ⟨counts, hrebuilt, by rw [hrebuilt]; rfl⟩
  | some row =>
    rw [hfirst] at houtcome
    have hfails : toCounts rows = .error (Bucket.refusal (row.upper - 1)) := houtcome
    have hrow : Bucket.isCounted (row.upper - 1) = false := by simpa using List.find?_some hfirst
    refine ⟨_, hfails, by rw [hfails]; rfl, Bucket.refusal_of_not_positive, ?_⟩
    rintro ⟨hfinite, hpos⟩
    simp only [Bucket.isCounted, hfinite, hpos, Bool.and_self, Bool.true_and] at hrow
    exact ⟨hrow, Bucket.refusal_of_positive hfinite hpos⟩

/-- Rows out of order, two of them in one bucket, with a count below zero and an empty row. -/
def unorderedRows : List NativeBucket :=
  [⟨0, 14, 15, 5⟩, ⟨0, 2, 4, 0⟩, ⟨0, 15, 16, -2⟩]

/-- The same rows with one that has no upper bound, and one that holds nothing above zero. -/
def unboundedRows : List NativeBucket :=
  unorderedRows ++ [⟨0, 16, .infinity false, 1⟩, ⟨0, 0, 1, 4⟩]

theorem agrees_with_cumulative_unorderedRows :
    (toCounts unorderedRows = .ok (.ofPairs [(14, 3), (3, 0)]) ∧
      Record.ofCumulative "wait" (toCumulative 0 unorderedRows) =
        .ok (.histogram "wait" (.ofPairs [(14, 3), (3, 0)]))) ∧
    toCounts unboundedRows = .error (.invalidBucketValue (.infinity false)) ∧
      Record.ofCumulative "wait" (toCumulative 0 unboundedRows) =
        .error (.invalidBucketValue (.infinity false)) := by
  have hbounded : unorderedRows.find? (fun row => !Bucket.isCounted (row.upper - 1)) = none := by
    decide +kernel
  have hunbounded : (unboundedRows.find? fun row => !Bucket.isCounted (row.upper - 1)).map upper =
      some (.infinity false) := by decide +kernel
  obtain ⟨row, hfirst, hupper⟩ := Option.map_eq_some_iff.mp hunbounded
  have hvalue : row.upper - 1 = .infinity false := by
    rw [hupper]
    decide +kernel
  have hrebuilt : toCounts unorderedRows = .ok (.ofPairs [(14, 3), (3, 0)]) :=
    toOption_eq_some_iff.mp (by decide +kernel)
  have hunordered : List.Forall₂ Counts unorderedRows [5, 0, -2] := by decide +kernel
  have hall : List.Forall₂ Counts unboundedRows [5, 0, -2, 1, 4] := by decide +kernel
  obtain ⟨-, hagree⟩ := agrees_with_cumulative hunordered (by decide) "wait"
  obtain ⟨-, hfail⟩ := agrees_with_cumulative hall (by decide) "wait"
  rw [hbounded] at hagree
  simp only [hfirst, hvalue] at hfail
  obtain ⟨others, hothers, hcumulative⟩ := hagree
  cases hrebuilt.symm.trans hothers
  obtain ⟨failure, hnative, hrecord, hrefused, -⟩ := hfail
  obtain rfl := hrefused fun hpositive => by cases hpositive.1
  exact ⟨⟨hrebuilt, hcumulative⟩, hnative, hrecord⟩

/-- A row up to the greatest number, with one observation. -/
def greatestRows : List NativeBucket := [⟨0, 0, Bucket.greatest, 1⟩]

/-- A row up to the greatest number is neither rebuilt nor refused, although the value below its bound
is positive and finite: the search for the octave does not end, on both ways. -/
theorem agreement_missed_of_greatest :
    List.Forall₂ Counts greatestRows [1] ∧ (∀ total ∈ runningTotals 0 [1], total.natAbs < 2 ^ 53) ∧
    (∀ row ∈ greatestRows, (row.upper - 1).isFinite = true ∧ lt 0 (row.upper - 1) = true) ∧
    toCounts greatestRows = .error (.endless Bucket.greatest) ∧
    Record.ofCumulative "wait" (toCumulative 0 greatestRows) = .error (.endless Bucket.greatest) ∧
    ¬ ((∃ counts, toCounts greatestRows = .ok counts) ∨
      ∃ value, toCounts greatestRows = .error (.invalidBucketValue value)) := by
  have hsearch : Bucket.ofValue (Bucket.greatest - 1) = .error (.endless Bucket.greatest) := by
    rw [Bucket.greatest_sub_one, Bucket.ofValue_greatest]
  have hnative : toCounts greatestRows = .error (.endless Bucket.greatest) := by
    rw [toCounts, greatestRows, List.map_singleton, addAll_cons_of_error hsearch]
  refine ⟨by decide +kernel, by decide, by decide +kernel, hnative, ?_, ?_⟩
  · rw [Record.ofCumulative, greatestRows, toCumulative, CumulativeBucket.occupancy,
      addAll_cons_of_error hsearch]
    rfl
  · rintro (⟨counts, hcounts⟩ | ⟨value, hvalue⟩)
    · cases hnative.symm.trans hcounts
    · cases hnative.symm.trans hvalue

end NativeBucket

end ExporterAudit
