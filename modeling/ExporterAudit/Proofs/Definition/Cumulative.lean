import ExporterAudit.Proofs.BucketCounts.Sums
import ExporterAudit.Proofs.Family.Basic

/-!
Cumulative counts of whole numbers. A bound that grows from bucket line to bucket line sweeps over
the numbers, and what each line adds to the count are the numbers since the line before. Where
those all have one bucket, the lines leave the same tally as the numbers themselves.
-/

namespace ExporterAudit

open BucketCounts

/-- The numbers below a bound. -/
def below (numbers : List Nat) (bound : Int) : List Nat :=
  numbers.filter fun number => (number : Int) < bound

/-- The numbers from one bound up to the next. -/
def between (numbers : List Nat) (low high : Int) : List Nat :=
  numbers.filter fun number => low ≤ (number : Int) ∧ (number : Int) < high

/-- All positive whole numbers from one bound up to the next have the same bucket. -/
def OneBucket (low high : Int) : Prop :=
  ∀ a b : Nat, 0 < a → low ≤ a → (a : Int) < high → 0 < b → low ≤ b → (b : Int) < high →
    Bucket.ofValue (.ofNat a) = Bucket.ofValue (.ofNat b)

/-- The numbers below a larger bound are those below a smaller one and those between. -/
theorem below_perm {low high : Int} (hle : low ≤ high) (numbers : List Nat) :
    (below numbers high).Perm (below numbers low ++ between numbers low high) := by
  let isLow (number : Nat) : Bool := (number : Int) < low
  have hlow : (below numbers high).filter isLow = below numbers low := by
    rw [below, List.filter_filter]
    refine List.filter_congr fun number _ => ?_
    simp only [isLow, Bool.and_eq_left_iff_imp, decide_eq_true_eq]
    omega
  have hhigh : (below numbers high).filter (!isLow ·) = between numbers low high := by
    rw [below, List.filter_filter]
    refine List.filter_congr fun number _ => ?_
    rw [Bool.eq_iff_iff]
    simp [isLow]
  have hperm := List.filter_append_perm isLow (below numbers high)
  rw [hlow, hhigh] at hperm
  exact hperm.symm

theorem length_below_add {low high : Int} (hle : low ≤ high) (numbers : List Nat) :
    (below numbers high).length =
      (below numbers low).length + (between numbers low high).length := by
  rw [(below_perm hle numbers).length_eq, List.length_append]

theorem tallyOf_below_add {low high : Int} (hle : low ≤ high) (numbers : List Nat)
    (bucket : Binary64) : tallyOf (below numbers high) bucket =
      tallyOf (below numbers low) bucket + tallyOf (between numbers low high) bucket := by
  rw [tallyOf, (below_perm hle numbers).countP_eq, List.countP_append]
  rfl

theorem length_below_le (numbers : List Nat) (bound : Int) :
    (below numbers bound).length ≤ numbers.length :=
  List.length_filter_le _ _

/-- Numbers of one bucket are all counted there. -/
theorem tallyOf_eq_ite {numbers : List Nat} {counted : Binary64}
    (hall : ∀ number ∈ numbers, bucketOf? number = some counted) (bucket : Binary64) :
    tallyOf numbers bucket = if bucket = counted then numbers.length else 0 := by
  split
  · next heq =>
    rw [tallyOf, List.countP_eq_length]
    exact fun number hmem => by simp [hall number hmem, heq]
  · next hne =>
    rw [tallyOf, List.countP_eq_zero]
    exact fun number hmem => by simp [hall number hmem, Ne.symm hne]

/-- A bucket line that counts the numbers below its bound. -/
structure Reports (numbers : List Nat) (bound : Int) (bucket : BucketLine) : Prop where
  reads : ∃ written, Line.value? bucket.bound = some written ∧ written.IsInt bound
  small : bound.natAbs < 2 ^ 53
  counts : bucket.count.value.IsInt (below numbers bound).length

/-- Positive numbers in a range lie in it and above zero. -/
theorem range_of_mem_between {numbers : List Nat} (hpositive : ∀ number ∈ numbers, 0 < number)
    {low high : Int} {number : Nat} (hmem : number ∈ between numbers low high) :
    0 < number ∧ low ≤ number ∧ (number : Int) < high := by
  obtain ⟨hnumber, hbounds⟩ := List.mem_filter.mp hmem
  exact ⟨hpositive number hnumber, by simpa using hbounds⟩

theorem two_le_of_between_ne_nil {numbers : List Nat} (hpositive : ∀ number ∈ numbers, 0 < number)
    {low high : Int} (hnew : between numbers low high ≠ []) : 2 ≤ high := by
  obtain ⟨number, hmem⟩ := List.exists_mem_of_ne_nil _ hnew
  have hrange := range_of_mem_between hpositive hmem
  omega

/-- What a line adds lands in the bucket of the numbers since the line before. -/
theorem BucketCounts.Tallies.add_between {numbers : List Nat} {low high : Int} {counts : BucketCounts}
    (htallies : counts.Tallies (tallyOf (below numbers low))) (hle : low ≤ high)
    (hone : OneBucket low high) (hpositive : ∀ number ∈ numbers, 0 < number)
    (hlength : numbers.length < 2 ^ 53) (hsmall : high.natAbs < 2 ^ 53)
    (hnew : between numbers low high ≠ []) {value amount : Binary64} (hvalue : value.IsInt (high - 1))
    (hamount : amount.IsInt (between numbers low high).length) :
    ∃ bucket, Bucket.ofValue value = .ok bucket ∧
      (counts.add bucket amount).Tallies (tallyOf (below numbers high)) := by
  obtain ⟨first, hfirst⟩ := List.exists_mem_of_ne_nil _ hnew
  have hfirstRange := range_of_mem_between hpositive hfirst
  obtain ⟨top, htop⟩ : ∃ top : Nat, high - 1 = top := ⟨(high - 1).toNat, by omega⟩
  rw [htop] at hvalue
  have heq : value = .ofNat top := hvalue.eq_ofNat (by omega) (by omega)
  obtain ⟨bucket, hbucket⟩ := exists_ofValue_ofNat (show 0 < top by omega) (by omega)
  have hall : ∀ number ∈ between numbers low high, bucketOf? number = some (key bucket) := by
    intro number hmem
    have hnumber := range_of_mem_between hpositive hmem
    rw [bucketOf?, hone number top hnumber.1 hnumber.2.1 hnumber.2.2 (by omega) (by omega) (by omega),
      hbucket]
    rfl
  have htally : tallyOf (below numbers low) (key bucket) ≤ (below numbers low).length :=
    List.countP_le_length
  have hfits : tallyOf (below numbers low) (key bucket) + (between numbers low high).length <
      2 ^ 53 := by
    have hbelow := length_below_add hle numbers
    have htotal := length_below_le numbers high
    omega
  refine ⟨bucket, heq ▸ hbucket, ?_⟩
  have hadded := htallies.add hamount (List.length_pos_of_ne_nil hnew) hfits
  convert hadded using 2 with other
  rw [tallyOf_below_add hle, tallyOf_eq_ite hall]
  split <;> simp

/-- Integers in the exact range that are bounds lie far before the end of the search. -/
theorem Reports.bounded {numbers : List Nat} {bound : Int} {bucket : BucketLine}
    (hreports : Reports numbers bound bucket) (hbound : 2 ≤ bound) :
    bucket.Bounded ∧ bucket.OctaveFound := by
  obtain ⟨written, hvalue, hint⟩ := hreports.reads
  have hsmall := hreports.small
  obtain ⟨top, htop⟩ : ∃ top : Nat, bound - 1 = top := ⟨(bound - 1).toNat, by omega⟩
  have hbelow : (written - 1).IsInt (bound - 1) :=
    hint.sub Binary64.isInt_one hsmall (by decide) (by omega)
  rw [htop] at hbelow
  have heq : written - 1 = .ofNat top := hbelow.eq_ofNat (by omega) (by omega)
  refine ⟨⟨written, hvalue, hint.isFinite hsmall, (Binary64.isInt_one.lt_iff hint).mpr (by omega)⟩,
    fun bound hmem => ?_⟩
  obtain rfl : written = bound := Option.some.inj (hvalue.symm.trans hmem)
  rw [heq]
  exact Bucket.lt_searchEnd_of_le (Binary64.hasUnits_ofNat (by omega))
    (Nat.mul_le_mul_right _ (by omega))

/-- From any bound on, the lines that change the count leave the tally of all numbers below the
last bound. -/
theorem exists_addAll_changes {numbers : List Nat} (hpositive : ∀ number ∈ numbers, 0 < number)
    (hlength : numbers.length < 2 ^ 53) {low : Int} {bounds : List Int} {lines : List BucketLine}
    (hreports : List.Forall₂ (Reports numbers) bounds lines)
    (hincreasing : (low :: bounds).IsChain (· < ·)) (hone : (low :: bounds).IsChain OneBucket)
    {last : BucketLine} (hlast : last.count.value.IsInt (below numbers (bounds.getLastD low)).length)
    {previous kept : Binary64} (hprevious : previous.IsInt (below numbers low).length)
    (hkept : kept.IsInt (below numbers low).length) {counts : BucketCounts}
    (htallies : counts.Tallies (tallyOf (below numbers low))) :
    (∀ line ∈ BucketLine.changes previous (lines ++ [last]), line.Bounded ∧ line.OctaveFound) ∧
      ∃ cumulative result,
        (BucketLine.changes previous (lines ++ [last])).mapM BucketLine.toBucket? = some cumulative ∧
        counts.addAll (CumulativeBucket.occupancy kept cumulative) = .ok result ∧
        result.Tallies (tallyOf (below numbers (bounds.getLastD low))) := by
  -- `previous` is the count of the line before, `kept` that of the last line that was kept: the
  -- same natural number, though not always the same number of the format.
  induction hreports generalizing low previous kept counts with
  | nil =>
    have hunchanged : last.count.value.equals previous = true := (hlast.equals_iff hprevious).mpr rfl
    rw [List.nil_append, BucketLine.changes, if_pos hunchanged]
    exact ⟨List.forall_mem_nil _, [], counts, rfl, rfl, htallies⟩
  | @cons bound line bounds lines hline _ ih =>
    obtain ⟨hlt, hincreasing⟩ := List.isChain_cons_cons.mp hincreasing
    obtain ⟨hbucket, hone⟩ := List.isChain_cons_cons.mp hone
    have hcount := length_below_add hlt.le numbers
    rw [List.getLastD_cons] at hlast ⊢
    rw [List.cons_append, BucketLine.changes]
    by_cases hsame : line.count.value.equals previous = true
    · rw [if_pos hsame]
      have hempty : between numbers low bound = [] := by
        have hequal := (hline.counts.equals_iff hprevious).mp hsame
        exact List.eq_nil_of_length_eq_zero (by omega)
      have hbelow : tallyOf (below numbers bound) = tallyOf (below numbers low) := by
        funext bucket
        rw [tallyOf_below_add hlt.le, hempty]
        rfl
      have hlengths : (below numbers bound).length = (below numbers low).length := by
        rw [hcount, hempty]
        rfl
      exact ih hincreasing hone hlast hline.counts (hlengths ▸ hkept) (hbelow ▸ htallies)
    · rw [if_neg hsame]
      obtain ⟨written, hvalue, hint⟩ := hline.reads
      have hnew : between numbers low bound ≠ [] := by
        intro hempty
        refine hsame ((hline.counts.equals_iff hprevious).mpr ?_)
        rw [hcount, hempty]
        rfl
      have htotal := length_below_le numbers bound
      have hsmall := hline.small
      have hbound := two_le_of_between_ne_nil hpositive hnew
      have hvalueInt : (written - 1).IsInt (bound - 1) :=
        hint.sub Binary64.isInt_one hsmall (by decide) (by omega)
      have hamount : (line.count.value - kept).IsInt (between numbers low bound).length := by
        have hdifference := hline.counts.sub hkept (by omega) (by omega) (by omega)
        rwa [hcount, Int.natCast_add, add_sub_cancel_left] at hdifference
      obtain ⟨bucket, hof, hadded⟩ := htallies.add_between hlt.le hbucket hpositive hlength
        hsmall hnew hvalueInt hamount
      obtain ⟨hbounded, cumulative, result, hread, hresult, hdone⟩ :=
        ih hincreasing hone hlast hline.counts hline.counts hadded
      refine ⟨List.forall_mem_cons.mpr ⟨hline.bounded hbound, hbounded⟩,
        ⟨written, line.count.value⟩ :: cumulative, result, ?_, ?_, hdone⟩
      · rw [List.mapM_cons, BucketLine.toBucket?, hvalue, hread]
        rfl
      · rw [CumulativeBucket.occupancy, addAll_cons hof, hresult]

end ExporterAudit
