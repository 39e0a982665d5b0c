import ExporterAudit.Proofs.Binary64.Printing
import ExporterAudit.Proofs.Check.Verdict
import ExporterAudit.Proofs.Endpoint.Query
import ExporterAudit.Proofs.Success
import Mathlib.Data.List.Permutation

/-!
When the check of the sharded counter passes. It compares printed numbers after sorting them by
their differences, an order that not-a-number and the infinities upset. Still it passes exactly if
both pages hold the right numbers as often as they should, in any order.
-/

namespace ExporterAudit

namespace Exposition.Outcome

/-- Records that were read before a failure are given up with it. -/
theorem toExcept_eq_ok_iff {outcome : Outcome} {records : List Record} :
    outcome.toExcept = .ok records ↔ outcome = ⟨records, none⟩ := by
  obtain ⟨others, _ | failure⟩ := outcome <;> simp [toExcept]

theorem isEndless_toExcept_iff {outcome : Outcome} :
    (Session.ofExcept outcome.toExcept).isEndless = true ↔
      ∃ records value, outcome = ⟨records, some (.endless value)⟩ := by
  obtain ⟨records, _ | failure⟩ := outcome
  · simp [Session.isEndless, Session.ofExcept, toExcept]
  · simp [Session.isEndless, Session.ofExcept, toExcept, Failure.isEndless_eq_true_iff]

end Exposition.Outcome

namespace Check

/-! ### Numbers among records -/

/-- The records hold each number as often as a list does. Histograms hold none. -/
def HoldNumbers (records : List Record) (numbers : List Binary64) : Prop :=
  ∀ number, records.countP (·.value = .scalar number) = numbers.count number

theorem count_scalarValues (records : List Record) (number : Binary64) :
    (scalarValues records).count number = records.countP (·.value = .scalar number) := by
  induction records with
  | nil => rfl
  | cons record records ih =>
    unfold scalarValues at ih ⊢
    obtain ⟨name, labels, value | buckets⟩ := record
    · by_cases hvalue : value = number <;> simp [hvalue, ih]
    · simp [ih]

/-- Counting the occurrences of each number leaves only its place open. -/
theorem holdNumbers_iff_perm {records : List Record} {numbers : List Binary64} :
    HoldNumbers records numbers ↔ (scalarValues records).Perm numbers := by
  simp only [HoldNumbers, List.perm_iff_count, count_scalarValues]

/-! ### Numbers compared as they are printed -/

/-- Sorting puts the numbers of each case in order, however they come. -/
theorem ascending_of_perm {aggregationCase : Bool × List Binary64}
    (hcase : aggregationCase ∈ aggregationCases) {numbers : List Binary64}
    (hperm : numbers.Perm aggregationCase.2) : Binary64.ascending numbers = aggregationCase.2 := by
  simp only [aggregationCases, List.mem_cons, List.not_mem_nil, or_false] at hcase
  rcases hcase with rfl | rfl
  · rcases List.pair_perm.mp hperm.symm with rfl | rfl <;> decide +kernel
  · rw [hperm.eq_singleton]
    decide +kernel

/-- What is printed like the numbers of a case is these numbers. -/
theorem eq_of_numbersText {aggregationCase : Bool × List Binary64}
    (hcase : aggregationCase ∈ aggregationCases) {numbers : List Binary64}
    (htext : numbersText "," numbers = numbersText "," aggregationCase.2) :
    numbers = aggregationCase.2 := by
  -- The numbers of both cases are positive integers, and printed as such.
  obtain ⟨naturals, hnonempty, hrange, hnaturals, hprinted⟩ :
      ∃ naturals : List Nat, naturals ≠ [] ∧ (∀ n ∈ naturals, 0 < n ∧ n < 2 ^ 53) ∧
        aggregationCase.2 = naturals.map Binary64.ofNat ∧
        numbersText "," aggregationCase.2 = Text.join "," (naturals.map Text.ofNat) := by
    simp only [aggregationCases, List.mem_cons, List.not_mem_nil, or_false] at hcase
    rcases hcase with rfl | rfl
    · exact ⟨[1, 2], by simp, by simp, rfl, by decide +kernel⟩
    · exact ⟨[3], by simp, by simp, rfl, by decide +kernel⟩
  rw [hnaturals]
  exact Binary64.eq_map_ofNat_of_join hnonempty hrange (htext.trans hprinted)

/-- The comparison of printed numbers decides whether these are the right ones. -/
theorem numbersText_eq_iff {aggregationCase : Bool × List Binary64}
    (hcase : aggregationCase ∈ aggregationCases) (records : List Record) :
    numbersText "," (Binary64.ascending (scalarValues records)) = numbersText "," aggregationCase.2 ↔
      HoldNumbers records aggregationCase.2 := by
  rw [holdNumbers_iff_perm]
  constructor
  · intro htext
    rw [← eq_of_numbersText hcase htext]
    exact (Binary64.ascending_perm _).symm
  · intro hperm
    rw [ascending_of_perm hcase hperm]

/-! ### The two pages -/

variable (context : CheckContext)

/-- The query for the sharded counter. -/
def counterQuery (aggregate : Bool) : MetricsQuery :=
  { name := some (counterQueryName context), aggregate }

/-- Where the sharded counter is asked for: by its name with the group, and told if it is not to be
summed. -/
def counterAddress (aggregate : Bool) : Text :=
  queryAddress (withoutEndSlashes context.endpoint.baseUrl ++ context.endpoint.path)
    (("__name__".toList, context.space.group ++ "_" ++ "counter_1") ::
      if aggregate then [] else [("__aggregate__".toList, "false".toList)])

/-- Both queries are for the counter by name. Only the one for the shards tells that they are not to
be summed. -/
theorem url_counterQuery (aggregate : Bool) :
    context.endpoint.url (counterQuery context aggregate) = counterAddress context aggregate := by
  have hparameters : (counterQuery context aggregate).parameters =
      ("__name__".toList, context.space.group ++ "_" ++ "counter_1") ::
        if aggregate then [] else [("__aggregate__".toList, "false".toList)] := by
    have hunreserved : (counterQuery context aggregate).Unreserved := by
      intro entry hmem
      cases hmem
    rw [hunreserved.parameters_eq]
    cases aggregate <;> rfl
  rw [Endpoint.url_eq_queryAddress _ (by rw [hparameters]; exact List.cons_ne_nil _ _), hparameters]
  rfl

/-- How the page at an address is read under the full name of the sharded counter. -/
def Reads (address : Text) (outcome : Exposition.Outcome) : Prop :=
  ∃ body, context.network.Answers address body ∧
    Exposition.read (Text.splitOn '\n' body.trimEnd)
      { name := some (context.endpoint.space.pre ++ "_" ++
          (context.endpoint.space.group ++ "_" ++ "counter_1")) } = outcome

/-- The page at an address is read to its end and holds the given numbers. -/
def Shows (address : Text) (numbers : List Binary64) : Prop :=
  ∃ records, Reads context address ⟨records, none⟩ ∧ HoldNumbers records numbers

/-- The page at an address is never read to its end. -/
def KeepsReading (address : Text) : Prop :=
  ∃ records value, Reads context address ⟨records, some (.endless value)⟩

/-- The space of the endpoint plays no part in what is asked for. -/
theorem fetch_counterQuery (aggregate : Bool) :
    context.endpoint.fetch context.network (counterQuery context aggregate) = do
      let body ← context.network.fetch context.endpoint.timeoutMs
        { url := counterAddress context aggregate, accept := none }
      return .ofBody body context.endpoint.space := by
  rw [Endpoint.fetch, url_counterQuery]

theorem actions_fetchCounter (aggregate : Bool) :
    (fetchRecords context (counterQuery context aggregate) (some shardedCounter)).actions =
      if Timeout.refusal? context.endpoint.timeoutMs = none then
        [.request { url := counterAddress context aggregate, accept := none }]
      else [] := by
  rw [fetchRecords, fetch_counterQuery, Session.actions_bind_of_nil fun _ => rfl,
    Session.actions_bind_of_nil fun _ => rfl, Network.actions_fetch]

/-- There are records exactly if the page is there and is read to its end. -/
theorem outcome_fetchCounter_eq_ok_iff {aggregate : Bool} {records : List Record} :
    (fetchRecords context (counterQuery context aggregate) (some shardedCounter)).outcome =
        .ok records ↔
      Timeout.refusal? context.endpoint.timeoutMs = none ∧
        Reads context (counterAddress context aggregate) ⟨records, none⟩ := by
  simp only [fetchRecords, fetch_counterQuery, Session.outcome_bind_eq_ok_iff, Session.outcome_pure,
    Session.ofExcept, Except.ok.injEq, Network.outcome_fetch_eq_ok_iff]
  constructor
  · rintro ⟨_, ⟨body, ⟨htimeout, hbody⟩, rfl⟩, hrecords⟩
    exact ⟨htimeout, body, hbody, Exposition.Outcome.toExcept_eq_ok_iff.mp hrecords⟩
  · rintro ⟨htimeout, body, hbody, hrecords⟩
    exact ⟨_, ⟨body, ⟨htimeout, hbody⟩, rfl⟩, Exposition.Outcome.toExcept_eq_ok_iff.mpr hrecords⟩

/-- The request ends, so what may not end is the reading of its page. -/
theorem isEndless_fetchCounter_iff {aggregate : Bool} :
    (fetchRecords context (counterQuery context aggregate) (some shardedCounter)).isEndless = true ↔
      Timeout.refusal? context.endpoint.timeoutMs = none ∧
        KeepsReading context (counterAddress context aggregate) := by
  simp only [fetchRecords, fetch_counterQuery, Session.isEndless_bind_iff, Network.isEndless_fetch,
    Session.outcome_bind_eq_ok_iff, Session.outcome_pure, Except.ok.injEq,
    Network.outcome_fetch_eq_ok_iff, Exposition.Outcome.isEndless_toExcept_iff]
  constructor
  · rintro ((hfetch | ⟨_, -, hpure⟩) | ⟨_, ⟨body, ⟨htimeout, hbody⟩, rfl⟩, records, value, hread⟩)
    · cases hfetch
    · cases hpure
    · exact ⟨htimeout, records, value, body, hbody, hread⟩
  · rintro ⟨htimeout, records, value, body, hbody, hread⟩
    exact .inr ⟨_, ⟨body, ⟨htimeout, hbody⟩, rfl⟩, records, value, hread⟩

/-! ### The verdict -/

variable {aggregationCase : Bool × List Binary64}

/-- A case looks at the records that it fetches and has no problem exactly if they hold its numbers. -/
theorem exists_runAggregationCase_eq (hcase : aggregationCase ∈ aggregationCases) :
    ∃ problem? : List Record → Option Text,
      runAggregationCase context aggregationCase = problem? <$>
        fetchRecords context (counterQuery context aggregationCase.1) (some shardedCounter) ∧
      ∀ records, problem? records = none ↔ HoldNumbers records aggregationCase.2 := by
  obtain ⟨aggregate, numbers⟩ := aggregationCase
  let complaint (records : List Record) : Text :=
    "aggregate=" ++ (if aggregate then "true" else "false" : Text) ++ ": expected [" ++
      numbersText ", " numbers ++ "], got [" ++
      numbersText ", " (Binary64.ascending (scalarValues records)) ++ "]"
  refine ⟨fun records =>
    if numbersText "," (Binary64.ascending (scalarValues records)) = numbersText "," numbers then none
    else some (complaint records), ?_, fun records => ?_⟩
  · rw [map_eq_pure_bind]
    refine congrArg (fetchRecords context _ (some shardedCounter) >>= ·) (funext fun records => ?_)
    dsimp only
    split <;> rfl
  · rw [← numbersText_eq_iff hcase records]
    simp

variable {context}

/-- A case goes through without a problem exactly if its page shows its numbers. -/
theorem runAggregationCase_eq_none_iff (hcase : aggregationCase ∈ aggregationCases) :
    (runAggregationCase context aggregationCase).outcome = .ok none ↔
      Timeout.refusal? context.endpoint.timeoutMs = none ∧
        Shows context (counterAddress context aggregationCase.1) aggregationCase.2 := by
  obtain ⟨problem?, heq, hproblem⟩ := exists_runAggregationCase_eq context hcase
  simp only [heq, Session.outcome_map_eq_ok_iff, outcome_fetchCounter_eq_ok_iff, hproblem, and_assoc,
    exists_and_left, Shows]

/-- A case goes through, with a problem or without, exactly if its page is read to its end. -/
theorem exists_runAggregationCase_iff (hcase : aggregationCase ∈ aggregationCases) :
    (∃ problem, (runAggregationCase context aggregationCase).outcome = .ok problem) ↔
      Timeout.refusal? context.endpoint.timeoutMs = none ∧
        ∃ records, Reads context (counterAddress context aggregationCase.1) ⟨records, none⟩ := by
  obtain ⟨problem?, heq, -⟩ := exists_runAggregationCase_eq context hcase
  simp only [heq, Session.exists_outcome_map_iff, outcome_fetchCounter_eq_ok_iff, exists_and_left]

theorem isEndless_runAggregationCase_iff (hcase : aggregationCase ∈ aggregationCases) :
    (runAggregationCase context aggregationCase).isEndless = true ↔
      Timeout.refusal? context.endpoint.timeoutMs = none ∧
        KeepsReading context (counterAddress context aggregationCase.1) := by
  obtain ⟨problem?, heq, -⟩ := exists_runAggregationCase_eq context hcase
  rw [heq, Session.isEndless_map, isEndless_fetchCounter_iff]

/-- Whatever a case finds on its page, it has asked for this page and no other. -/
theorem actions_runAggregationCase (hcase : aggregationCase ∈ aggregationCases) :
    (runAggregationCase context aggregationCase).actions =
      if Timeout.refusal? context.endpoint.timeoutMs = none then
        [.request { url := counterAddress context aggregationCase.1, accept := none }]
      else [] := by
  obtain ⟨problem?, heq, -⟩ := exists_runAggregationCase_eq context hcase
  rw [heq, Session.actions_map, actions_fetchCounter]

theorem apart_mem_aggregationCases : (false, [1, 2]) ∈ aggregationCases := .head _

theorem summed_mem_aggregationCases : (true, [3]) ∈ aggregationCases := .tail _ (.head _)

variable (context)

theorem verdict_aggregation_passed_iff :
    (verdict context .aggregation).outcome = .ok .passed ↔
      Timeout.refusal? context.endpoint.timeoutMs = none ∧
        Shows context (counterAddress context false) [1, 2] ∧
        Shows context (counterAddress context true) [3] := by
  change (problemsOf aggregationCases (runAggregationCase context)).outcome = .ok .passed ↔ _
  have hcases : (∀ aggregationCase ∈ aggregationCases,
      (runAggregationCase context aggregationCase).outcome = .ok none) ↔
        (runAggregationCase context (false, [1, 2])).outcome = .ok none ∧
          (runAggregationCase context (true, [3])).outcome = .ok none := by
    simp only [aggregationCases, List.forall_mem_cons, List.not_mem_nil, false_implies, implies_true,
      and_true]
  rw [problemsOf_passed_iff, hcases, runAggregationCase_eq_none_iff apart_mem_aggregationCases,
    runAggregationCase_eq_none_iff summed_mem_aggregationCases]
  constructor
  · rintro ⟨⟨htimeout, hapart⟩, -, hsummed⟩
    exact ⟨htimeout, hapart, hsummed⟩
  · rintro ⟨htimeout, hapart, hsummed⟩
    exact ⟨⟨htimeout, hapart⟩, htimeout, hsummed⟩

/-- The second page is read only if the first one is read to its end. -/
theorem isEndless_aggregation_iff :
    (verdict context .aggregation).isEndless = true ↔
      Timeout.refusal? context.endpoint.timeoutMs = none ∧
        (KeepsReading context (counterAddress context false) ∨
          (∃ records, Reads context (counterAddress context false) ⟨records, none⟩) ∧
            KeepsReading context (counterAddress context true)) := by
  change (problemsOf [(false, [1, 2]), (true, [3])] (runAggregationCase context)).isEndless = true ↔ _
  rw [isEndless_problemsOf_pair_iff, isEndless_runAggregationCase_iff apart_mem_aggregationCases,
    isEndless_runAggregationCase_iff summed_mem_aggregationCases,
    exists_runAggregationCase_iff apart_mem_aggregationCases]
  constructor
  · rintro (⟨htimeout, hapart⟩ | ⟨⟨htimeout, hapart⟩, -, hsummed⟩)
    · exact ⟨htimeout, .inl hapart⟩
    · exact ⟨htimeout, .inr ⟨hapart, hsummed⟩⟩
  · rintro ⟨htimeout, hapart | ⟨hapart, hsummed⟩⟩
    · exact .inl ⟨htimeout, hapart⟩
    · exact .inr ⟨⟨htimeout, hapart⟩, htimeout, hsummed⟩

/-- What the check asks: nothing if its timeout is none, the first page, or the second one after it. -/
theorem actions_aggregation :
    (verdict context .aggregation).actions <+: [
        .request { url := counterAddress context false, accept := none },
        .request { url := counterAddress context true, accept := none }] ∧
      (Timeout.refusal? context.endpoint.timeoutMs = none →
        (∃ records, Reads context (counterAddress context false) ⟨records, none⟩) →
        (verdict context .aggregation).actions = [
          .request { url := counterAddress context false, accept := none },
          .request { url := counterAddress context true, accept := none }]) := by
  have hactions : (verdict context .aggregation).actions = _ :=
    actions_problemsOf_pair (runAggregationCase context) (false, [1, 2]) (true, [3])
  rw [hactions, actions_runAggregationCase apart_mem_aggregationCases,
    actions_runAggregationCase summed_mem_aggregationCases]
  constructor
  · cases (runAggregationCase context (false, [1, 2])).outcome <;> dsimp only <;> split <;> simp
  · intro htimeout hapart
    obtain ⟨problem, hproblem⟩ :=
      (exists_runAggregationCase_iff apart_mem_aggregationCases).mpr ⟨htimeout, hapart⟩
    rw [hproblem, if_pos htimeout, if_pos htimeout]
    rfl

/-- The counter of two shards, the second of which comes first. -/
def apartPage : Text :=
  Text.join "\n" [
    "seastar_test_group_counter_1\x7bshard=\"1\"\x7d 2",
    "seastar_test_group_counter_1\x7bshard=\"0\"\x7d 1"]

def summedPage : Text :=
  "# TYPE seastar_test_group_counter_1 counter\nseastar_test_group_counter_1 3\n"

def twoShards : CheckContext where
  network := Network.ofReplies [
    ("http://localhost:10001/metrics?__name__=test_group_counter_1&__aggregate__=false",
      .response 200 apartPage),
    ("http://localhost:10001/metrics?__name__=test_group_counter_1", .response 200 summedPage)]
  endpoint := { baseUrl := "http://localhost:10001/" }
  queryServer := none
  definitions := []
  space := .standard
  labelFilter := .empty
  scrapeIntervalSeconds := 15

end Check

end ExporterAudit
