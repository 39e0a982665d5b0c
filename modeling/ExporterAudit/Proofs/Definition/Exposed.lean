import ExporterAudit.Definition
import ExporterAudit.Proofs.Definition.Cumulative
import ExporterAudit.Proofs.Family.RoundTrip
import ExporterAudit.Proofs.Record.Matching

/-!
Definitions that an exporter follows. The records expected from the definitions, with histograms
counted from raw values, equal the records read from the exporter's page, with histograms rebuilt
from cumulative counts, however fine the bounds are and in whatever order the families stand.
-/

namespace ExporterAudit

/-- A series that counts whole numbers: bucket lines with growing bounds, each of them fine enough
to keep the buckets apart, the last bound above all numbers, and one more line with the total. -/
structure Series.Counts (series : Series) (numbers : List Nat) (bounds : List Int)
    (lines : List BucketLine) (last : BucketLine) : Prop where
  buckets : series.buckets = lines ++ [last]
  reports : List.Forall₂ (Reports numbers) bounds lines
  increasing : bounds.IsChain (· < ·)
  fine : (1 :: bounds).IsChain OneBucket
  covers : ∃ top ∈ bounds.getLast?, ∀ number ∈ numbers, (number : Int) < top
  unbounded : last.bound = "+Inf".toList
  total : last.count.value.IsInt numbers.length

/-- A family that reports what a definition declares: its one value, or cumulative counts of its
values. -/
inductive Exposes (space : Namespace) (definition : Definition) (family : Family) : Prop where
  | scalar {value : Binary64} {type : ScalarType} {reading : Reading}
      (hname : family.name = space.qualifiedName definition.name)
      (htype : definition.type = .counter ∨ definition.type = .gauge)
      (hvalues : definition.values = [value])
      (hcontent : family.content = .scalar type [reading])
      (hreads : reading.token.value.equals value = true)
  | histogram {numbers : List Nat} {series : Series} {bounds : List Int} {lines : List BucketLine}
      {last : BucketLine}
      (hname : family.name = space.qualifiedName definition.name)
      (htype : definition.type = .histogram)
      (hvalues : definition.values = numbers.map .ofNat)
      (hnumbers : ∀ number ∈ numbers, 0 < number ∧ number < 2 ^ 53)
      (hlength : numbers.length < 2 ^ 53)
      (hcontent : family.content = .histogram [series])
      (hcounts : series.Counts numbers bounds lines last)

namespace Series.Counts

variable {series : Series} {numbers : List Nat} {bounds : List Int} {lines : List BucketLine}
  {last : BucketLine}

/-- Sweeping can start below all positive numbers. -/
theorem exists_start (hcounts : series.Counts numbers bounds lines last) :
    ∃ low ≤ 0, (low :: bounds).IsChain (· < ·) ∧ (low :: bounds).IsChain OneBucket := by
  -- The first bound may lie below one, so the sweep starts before it.
  obtain ⟨-, -, hincreasing, hfine, -, -, -⟩ := hcounts
  cases bounds with
  | nil => exact ⟨0, le_rfl, .singleton 0, .singleton 0⟩
  | cons bound rest =>
    obtain ⟨hone, hrest⟩ := List.isChain_cons_cons.mp hfine
    refine ⟨min 0 (bound - 1), min_le_left _ _, .cons_cons (by omega) hincreasing,
      .cons_cons (fun a b ha _ hahigh hb _ hbhigh => ?_) hrest⟩
    exact hone a b ha (by omega) hahigh hb (by omega) hbhigh

/-- The lines of a series that counts numbers leave the tally of these numbers. -/
theorem exists_record? (hcounts : series.Counts numbers bounds lines last)
    (hpositive : ∀ number ∈ numbers, 0 < number) (hlength : numbers.length < 2 ^ 53) (name : Text) :
    (∀ line ∈ BucketLine.changes 0 series.buckets, line.Bounded ∧ line.OctaveFound) ∧
      ∃ result, series.record? name = some (.histogram name result) ∧
        result.Tallies (BucketCounts.tallyOf numbers) := by
  obtain ⟨low, hlow, hincreasing, hone⟩ := hcounts.exists_start
  obtain ⟨top, htop, hcovers⟩ := hcounts.covers
  have hnone : below numbers low = [] := by
    refine List.filter_eq_nil_iff.mpr fun number hmem => ?_
    have hnumber := hpositive number hmem
    simp only [decide_eq_true_eq]
    omega
  have hall : below numbers (bounds.getLastD low) = numbers := by
    rw [List.getLastD_eq_getLast?, htop]
    exact List.filter_eq_self.mpr fun number hmem => decide_eq_true (hcovers number hmem)
  have hzero : (0 : Binary64).IsInt (below numbers low).length := by
    rw [hnone]
    exact Binary64.isInt_zero
  obtain ⟨hbounded, cumulative, result, hread, hresult, htallies⟩ :=
    exists_addAll_changes hpositive hlength hcounts.reports hincreasing hone
      (hall.symm ▸ hcounts.total) hzero hzero (by rw [hnone]; exact BucketCounts.tallies_empty)
  rw [← hcounts.buckets] at hbounded hread
  rw [hall] at htallies
  refine ⟨hbounded, result, ?_, htallies⟩
  rw [Series.record?, hread, Option.bind_some, Record.ofCumulative, hresult]
  rfl

end Series.Counts

namespace Exposes

variable {space : Namespace} {definition : Definition} {family : Family}

/-- An exporter that follows a definition writes a page that can be read. -/
theorem coherent (hexposes : Exposes space definition family) :
    family.Coherent ∧ family.OctavesFound := by
  cases hexposes with
  | scalar _ _ _ hcontent _ =>
    simp only [Family.Coherent, Family.OctavesFound, hcontent, and_self]
  | histogram _ _ _ hnumbers hlength hcontent hcounts =>
    obtain ⟨hbounded, -⟩ := hcounts.exists_record? (fun number hmem => (hnumbers number hmem).1)
      hlength family.name
    simp only [Family.Coherent, Family.OctavesFound, hcontent, List.mem_singleton, forall_eq]
    exact ⟨⟨.singleton _, fun line hmem => (hbounded line hmem).1⟩,
      fun line hmem => (hbounded line hmem).2⟩

/-- The one record of the family equals the one expected from the definition. -/
theorem exists_records (hexposes : Exposes space definition family) :
    ∃ actual expected, family.records? = some [actual] ∧
      definition.expectedRecord space = .ok expected ∧ actual.same expected = true := by
  cases hexposes with
  | @scalar value _ reading _ htype hvalues hcontent hreads =>
    refine ⟨.scalar family.name reading.token.value reading.labels,
      .scalar (space.qualifiedName definition.name) value definition.labels,
      by simp only [Family.records?, hcontent]; rfl, ?_, hreads⟩
    rcases htype with htype | htype <;>
      simp only [Definition.expectedRecord, Definition.toRecord, htype, hvalues]
  | @histogram numbers series _ _ _ _ htype hvalues hnumbers hlength hcontent hcounts =>
    obtain ⟨-, actual, hactual, htallies⟩ := hcounts.exists_record?
      (fun number hmem => (hnumbers number hmem).1) hlength family.name
    obtain ⟨expected, hexpected, hothers⟩ := BucketCounts.exists_addAll_ofNat
      BucketCounts.tallies_empty hnumbers (by simpa using hlength)
    simp only [Nat.zero_add] at hothers
    refine ⟨.histogram family.name actual, .histogram (space.qualifiedName definition.name) expected,
      ?_, ?_, BucketCounts.same_iff_agree.mpr (htallies.agree hothers)⟩
    · simp only [Family.records?, hcontent, List.mapM_cons, hactual]
      rfl
    · simp only [Definition.expectedRecord, Definition.toRecord, htype, hvalues,
        BucketCounts.ofValues, List.map_map, Function.comp_def, hexpected]
      rfl

end Exposes

theorem mapM_eq_ok_iff {α β ε : Type} {f : α → Except ε β} {items : List α} {results : List β} :
    items.mapM f = .ok results ↔
      List.Forall₂ (fun item result => f item = .ok result) items results := by
  induction items generalizing results with
  | nil => simp [pure, Except.pure, eq_comm]
  | cons item rest ih =>
    rw [List.mapM_cons]
    cases hitem : f item with
    | error failure => simp [List.forall₂_cons_left_iff, hitem, bind, Except.bind]
    | ok result =>
      cases hrest : rest.mapM f with
      | error failure =>
        simp [List.forall₂_cons_left_iff, hitem, ← ih, hrest, bind, Except.bind]
      | ok others =>
        simp [List.forall₂_cons_left_iff, hitem, ← ih, hrest, bind, Except.bind, pure, Except.pure,
          eq_comm]

namespace Definition

theorem coherent_of_forall₂ {order : List Definition} {space : Namespace} {families : List Family}
    (hexposes : List.Forall₂ (Exposes space) order families) :
    ∀ family ∈ families, family.Coherent ∧ family.OctavesFound := by
  induction hexposes with
  | nil => exact List.forall_mem_nil _
  | cons hfirst _ ih => exact List.forall_mem_cons.mpr ⟨hfirst.coherent, ih⟩

/-- Families that expose definitions one by one have, one by one, the records expected. -/
theorem exists_forall₂_same {order : List Definition} {space : Namespace} {families : List Family}
    (hexposes : List.Forall₂ (Exposes space) order families) :
    ∃ actual expected, families.mapM Family.records? = some (actual.map ([·])) ∧
      order.mapM (expectedRecord · space) = .ok expected ∧
      List.Forall₂ (fun a e => Record.same a e = true) actual expected := by
  induction hexposes with
  | nil => exact ⟨[], [], rfl, rfl, .nil⟩
  | cons hfirst _ ih =>
    obtain ⟨actual, expected, hactual, hexpected, hsame⟩ := ih
    obtain ⟨record, wanted, hrecord, hwanted, hequal⟩ := hfirst.exists_records
    refine ⟨record :: actual, wanted :: expected, ?_, ?_, .cons hequal hsame⟩
    · rw [List.mapM_cons, hrecord, hactual]
      rfl
    · rw [List.mapM_cons, hwanted, hexpected]
      rfl

/-- A gauge, and a histogram of three observations. -/
def queueDefinitions : List Definition :=
  [⟨"depth", .gauge, [7], .empty⟩, ⟨"wait", .histogram, [1, 2, 2], .empty⟩]

def waitTotal : BucketLine :=
  ⟨"+Inf", ⟨"3", 3, by decide, by decide +kernel⟩, by decide +kernel⟩

/-- The histogram as it is reported. -/
def waitSeries : Series where
  labels := .empty
  writable := by decide
  unbounded := by decide
  buckets := [
    ⟨"2", ⟨"1", 1, by decide, by decide +kernel⟩, by decide +kernel⟩,
    ⟨"3", ⟨"3", 3, by decide, by decide +kernel⟩, by decide +kernel⟩,
    waitTotal]
  nonempty := by simp
  totals := [(.sum, ⟨.empty, by decide, ⟨"5", 5, by decide, by decide +kernel⟩⟩)]

def waitFamily : Family :=
  ⟨Namespace.standard.qualifiedName "wait", by decide, none, by simp, .histogram [waitSeries]⟩

def depthFamily : Family :=
  ⟨Namespace.standard.qualifiedName "depth", by decide, none, by simp,
    .scalar .gauge [⟨.empty, by decide, ⟨"7", 7, by decide, by decide +kernel⟩⟩]⟩

theorem counts_waitSeries :
    waitSeries.Counts [1, 2, 2] [2, 3] (waitSeries.buckets.take 2) waitTotal where
  buckets := rfl
  reports := by
    refine .cons ⟨⟨2, by decide +kernel, ?_⟩, by decide, ?_⟩
      (.cons ⟨⟨3, by decide +kernel, ?_⟩, by decide, ?_⟩ .nil) <;>
      exact Binary64.isInt_ofNat (by decide)
  increasing := by decide
  fine := by
    have hsingle (low : Int) : OneBucket low (low + 1) := fun a b _ _ _ _ _ _ => by
      rw [show a = b by omega]
    exact .cons_cons (hsingle 1) (.cons_cons (hsingle 2) (.singleton 3))
  covers := ⟨3, rfl, by decide⟩
  unbounded := rfl
  total := Binary64.isInt_ofNat (by decide)

end Definition

end ExporterAudit
