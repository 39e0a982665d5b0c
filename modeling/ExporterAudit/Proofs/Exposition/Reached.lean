import ExporterAudit.Proofs.Exposition.Components
import Mathlib.Data.List.DropRight

/-!
What the reader's state says about the calls that led to it. Between two lines it remembers the last
type header and the accepted bucket lines of one series since, where each call has a filter of its own.

Main statement: what a state knows of the calls before it, for one step and then for a whole run. A
count is compared with the last one that was kept, and what makes this enough is that the last count
kept always equals the last count seen.
-/

namespace ExporterAudit

namespace Run

/-- Each change differs from the change before it, since the lines between them repeat a count. -/
theorem isChain_changes (previous : Binary64) (run : List Sample) :
    (previous :: (changes previous run).map Sample.value).IsChain
      fun before count => count.equals before = false := by
  induction run generalizing previous with
  | nil => exact .singleton previous
  | cons sample rest ih =>
    rw [changes]
    split
    · next hrepeats =>
      -- The next change differs from the repeated count, hence from the one that it repeats.
      cases hchanges : changes sample.value rest with
      | nil => exact .singleton previous
      | cons next later =>
        have hchain := ih sample.value
        rw [hchanges, List.map_cons, List.isChain_cons_cons] at hchain
        rw [List.map_cons, List.isChain_cons_cons]
        refine ⟨?_, hchain.2⟩
        rw [Bool.eq_false_iff]
        intro hequal
        have hsame := Binary64.equals_trans hequal (Binary64.equals_comm _ _ ▸ hrepeats)
        exact absurd hsame (Bool.eq_false_iff.mp hchain.1)
    · next hchanges =>
      rw [List.map_cons, List.isChain_cons_cons]
      exact ⟨Bool.eq_false_iff.mpr hchanges, ih sample.value⟩

theorem changes_sublist (previous : Binary64) (run : List Sample) :
    (changes previous run).Sublist run := by
  induction run generalizing previous with
  | nil => exact .slnil
  | cons sample rest ih =>
    rw [changes]
    split
    · exact (ih sample.value).cons sample
    · exact (ih sample.value).cons_cons sample

/-- The buckets are those of the changes, one for each. -/
theorem forall₂_of_buckets? {run : List Sample} {buckets : List CumulativeBucket}
    (hbuckets : buckets? run = some buckets) :
    List.Forall₂ (fun sample bucket => sample.toBucket? = some bucket) (changes 0 run) buckets := by
  rw [buckets?] at hbuckets
  generalize changes 0 run = kept at hbuckets ⊢
  induction kept generalizing buckets with
  | nil =>
    cases hbuckets
    exact .nil
  | cons sample rest ih =>
    rw [List.mapM_cons] at hbuckets
    obtain ⟨bucket, hbucket, hrest⟩ := Option.bind_eq_some_iff.mp hbuckets
    obtain ⟨others, hothers, heq⟩ := Option.bind_eq_some_iff.mp hrest
    cases heq
    exact .cons hbucket (ih hothers)

/-- The counts of the buckets are those of the lines that change the count. -/
theorem map_count_of_buckets? {run : List Sample} {buckets : List CumulativeBucket}
    (hbuckets : buckets? run = some buckets) :
    buckets.map CumulativeBucket.count = (changes 0 run).map Sample.value := by
  apply Eq.symm
  rw [← List.forall₂_eq_eq_eq, List.forall₂_map_left_iff, List.forall₂_map_right_iff]
  refine (forall₂_of_buckets? hbuckets).imp fun sample bucket hbucket => ?_
  obtain ⟨bound, -, rfl⟩ := Option.map_eq_some_iff.mp hbucket
  rfl

end Run

namespace Exposition

/-- One call of `advance`: a classified line, the line as it was given, and the filter. -/
structure Call where
  line : Line
  raw : Text
  filter : SampleFilter

/-- The state after calls. A call that fails leads to no state. -/
def advanceAll (state : State) (calls : List Call) : Except Failure State :=
  calls.foldlM (fun state call =>
    (advance state call.line call.raw call.filter).map Transition.state) state

/-- A history of calls that succeeds is cut before its last one. -/
theorem advanceAll_concat_eq_ok {state reached : State} {calls : List Call} {call : Call}
    (hreached : advanceAll state (calls ++ [call]) = .ok reached) :
    ∃ before transition, advanceAll state calls = .ok before ∧
      advance before call.line call.raw call.filter = .ok transition ∧
      transition.state = reached := by
  rw [advanceAll, List.foldlM_append] at hreached
  obtain ⟨before, hbefore, hlast⟩ := bind_eq_ok_iff.mp hreached
  simp only [List.foldlM_cons, List.foldlM_nil, bind_pure] at hlast
  obtain ⟨transition, hadvance, hstate⟩ := map_eq_ok_iff.mp hlast
  exact ⟨before, transition, hbefore, hadvance, hstate⟩

/-! ### What was read -/

namespace Call

/-- Whether the value of the line, if it has one, is finite. -/
def hasFiniteValue (call : Call) : Bool :=
  match call.line with
  | .sample sample => sample.value.isFinite
  | _ => true

/-- What a type header declares. -/
def header? (call : Call) : Option (Text × MetricType) :=
  match call.line with
  | .type name type => some (name, type)
  | _ => none

/-- The sample of a bucket line that its own filter accepts. -/
def bucket? (name : Text) (call : Call) : Option Sample :=
  match call.line with
  | .sample sample =>
    if call.filter.accepts sample ∧ sample.IsBucketOf name then some sample else none
  | _ => none

end Call

/-- What the last type header declares. -/
def lastHeader? (calls : List Call) : Option (Text × MetricType) :=
  (calls.filterMap Call.header?).getLast?

/-- The accepted bucket lines of a histogram since the last type header. -/
def bucketLines (name : Text) (calls : List Call) : List Sample :=
  (calls.rtakeWhile (·.header?.isNone)).filterMap (Call.bucket? name)

/-- The last lines of one series. -/
def currentRun (lines : List Sample) : List Sample :=
  match lines.getLast? with
  | none => []
  | some last => lines.rtakeWhile fun sample => seriesKey sample == seriesKey last

section History

variable (calls : List Call) {call : Call} {header : Text × MetricType}

theorem lastHeader?_concat_header (hheader : call.header? = some header) :
    lastHeader? (calls ++ [call]) = some header := by
  simp [lastHeader?, hheader]

/-- Behind a header no bucket line has come yet. -/
theorem bucketLines_concat_header (hheader : call.header? = some header) (name : Text) :
    bucketLines name (calls ++ [call]) = [] := by
  rw [bucketLines, List.rtakeWhile_concat_neg _ _ _ (by simp [hheader])]
  rfl

theorem lastHeader?_concat (hheader : call.header? = none) :
    lastHeader? (calls ++ [call]) = lastHeader? calls := by
  simp [lastHeader?, hheader]

/-- A call without a header adds its bucket line, if it has an accepted one. -/
theorem bucketLines_concat (hheader : call.header? = none) (name : Text) :
    bucketLines name (calls ++ [call]) = bucketLines name calls ++ (call.bucket? name).toList := by
  rw [bucketLines, List.rtakeWhile_concat_pos _ _ _ (by simp [hheader]), List.filterMap_append]
  cases hbucket : call.bucket? name <;> simp [hbucket, bucketLines]

end History

/-! ### Runs of one series -/

/-- A further line prolongs the last run, or is the first of the next one. -/
theorem currentRun_concat (lines : List Sample) (sample : Sample) :
    currentRun (lines ++ [sample]) =
      if ∀ other ∈ currentRun lines, seriesKey other = seriesKey sample then
        currentRun lines ++ [sample]
      else [sample] := by
  have hconcat (before : List Sample) (last : Sample) : currentRun (before ++ [last]) =
      before.rtakeWhile (fun other => seriesKey other == seriesKey last) ++ [last] := by
    rw [currentRun, List.getLast?_concat]
    exact List.rtakeWhile_concat_pos _ _ _ (by simp)
  rw [hconcat]
  rcases List.eq_nil_or_concat' lines with rfl | ⟨before, last, rfl⟩
  · rfl
  · by_cases hsame : seriesKey last = seriesKey sample
    · have hall : ∀ other ∈ currentRun (before ++ [last]), seriesKey other = seriesKey sample := by
        intro other hmem
        rw [hconcat, List.mem_append, List.mem_singleton] at hmem
        rcases hmem with hmem | rfl
        · have hkey := List.mem_rtakeWhile_imp hmem
          exact (beq_iff_eq.mp hkey).trans hsame
        · exact hsame
      rw [if_pos hall, hconcat, List.rtakeWhile_concat_pos _ _ _ (by simpa using hsame), hsame]
    · have hends : ¬ ∀ other ∈ currentRun (before ++ [last]), seriesKey other = seriesKey sample := by
        intro hall
        exact hsame (hall last (by simp [hconcat]))
      rw [if_neg hends, List.rtakeWhile_concat_neg _ _ _ (by simpa using hsame)]
      rfl

theorem getLast?_currentRun (lines : List Sample) : (currentRun lines).getLast? = lines.getLast? := by
  rcases List.eq_nil_or_concat' lines with rfl | ⟨before, last, rfl⟩
  · rfl
  · rw [currentRun_concat]
    split <;> simp

theorem currentRun_suffix (lines : List Sample) : currentRun lines <:+ lines := by
  unfold currentRun
  cases lines.getLast? with
  | none => exact List.nil_suffix
  | some last => exact List.rtakeWhile_suffix _ lines

/-! ### What the state knows -/

/-- The type in the header above the samples that are collected. -/
def CollectedType.toMetricType : CollectedType → MetricType
  | .histogram => .histogram
  | .summary => .summary

/-- What the reader's state knows about the calls before it. -/
inductive Knows (calls : List Call) : State → Prop
  | idle {declared : Option MetricType} (hheader : declared = (lastHeader? calls).map Prod.snd)
      (hhistogram : declared ≠ some .histogram) (hsummary : declared ≠ some .summary) :
      Knows calls (.idle declared)
  | collecting {type : CollectedType} {accumulator : Accumulator}
      (hheader : lastHeader? calls = some (accumulator.name, type.toMetricType))
      (hcollects : accumulator.Collects (currentRun (bucketLines accumulator.name calls)))
      (hsummary : type = .summary → accumulator = { name := accumulator.name }) :
      Knows calls (.collecting type accumulator)

theorem knows_initial : Knows [] .initial :=
  .idle rfl (by simp) (by simp)

/-- Below a new header the state knows that nothing has been collected yet. -/
theorem knows_ofHeader (calls : List Call) {call : Call} {name : Text} {type : MetricType}
    (hheader : call.header? = some (name, type)) :
    Knows (calls ++ [call]) (State.ofHeader name type) := by
  have hlast := lastHeader?_concat_header calls hheader
  have hfresh : Accumulator.Collects { name } (currentRun (bucketLines name (calls ++ [call]))) := by
    rw [bucketLines_concat_header calls hheader]
    exact collects_fresh name
  cases type with
  | histogram => exact .collecting hlast hfresh (by simp)
  | summary => exact .collecting hlast hfresh fun _ => rfl
  | counter | gauge | untyped => exact .idle (by simp [hlast]) (by simp) (by simp)

/-- A call that is neither a header nor an accepted bucket line teaches nothing. -/
theorem Knows.of_aside {calls : List Call} {state : State} (hknows : Knows calls state) {call : Call}
    (hheader : call.header? = none)
    (hbucket : ∀ type accumulator, state = .collecting type accumulator →
      call.bucket? accumulator.name = none) :
    Knows (calls ++ [call]) state := by
  have hlast := lastHeader?_concat calls hheader
  cases hknows with
  | idle hdeclared hhistogram hsummary => exact .idle (hlast ▸ hdeclared) hhistogram hsummary
  | collecting hdeclared hcollects hsummary =>
    refine .collecting (hlast ▸ hdeclared) ?_ hsummary
    rw [bucketLines_concat calls hheader, hbucket _ _ rfl, Option.toList_none, List.append_nil]
    exact hcollects

/-- The series compared is that of the run. -/
theorem Accumulator.Collects.continues_iff {accumulator : Accumulator} {run : List Sample}
    (hcollects : accumulator.Collects run) (sample : Sample) :
    accumulator.series.all (· == seriesKey sample) = true ↔
      ∀ other ∈ run, seriesKey other = seriesKey sample := by
  constructor
  · intro hcontinues other hmem
    simpa [hcollects.series other hmem] using hcontinues
  · intro hall
    cases run with
    | nil => simp [hcollects.fresh rfl]
    | cons first rest =>
      have hfirst := hall first List.mem_cons_self
      simpa [hcollects.series first List.mem_cons_self] using hfirst

/-- A line that is collected is the last one of the run. -/
theorem Accumulator.Collects.of_add_eq_ok {accumulator next : Accumulator} {run : List Sample}
    (hcollects : accumulator.Collects run) {sample : Sample}
    (hbucket : sample.IsBucketOf accumulator.name) (hfinite : sample.value.isFinite = true)
    (hsame : ∀ other ∈ run, seriesKey other = seriesKey sample) {raw : Text}
    (hadd : accumulator.add sample raw = .ok next) :
    next.name = accumulator.name ∧ next.Collects (run ++ [sample]) := by
  rcases hcollects.add hbucket hfinite hsame raw with
    ⟨added, hadded, hname, hprolonged⟩ | ⟨failure, hfailed, -⟩
  · cases hadded.symm.trans hadd
    exact ⟨hname, hprolonged⟩
  · cases hfailed.symm.trans hadd

/-- A bucket line leaves what is collected since the series began. -/
theorem Accumulator.Collects.of_addBucket_eq_ok {accumulator : Accumulator} {lines : List Sample}
    (hcollects : accumulator.Collects (currentRun lines)) {sample : Sample}
    (hbucket : sample.IsBucketOf accumulator.name) (hfinite : sample.value.isFinite = true)
    {type : CollectedType} {raw : Text} {transition : Transition}
    (hadd : addBucket type accumulator sample raw = .ok transition) :
    ∃ next, transition.state = .collecting type next ∧ next.name = accumulator.name ∧
      next.Collects (currentRun (lines ++ [sample])) := by
  rw [currentRun_concat]
  rcases addBucket_cases hadd with
    ⟨hcontinues, next, hnext, rfl⟩ | ⟨hends, emitted, next, -, hnext, rfl⟩
  · have hsame := (hcollects.continues_iff sample).mp hcontinues
    obtain ⟨hname, hprolonged⟩ := hcollects.of_add_eq_ok hbucket hfinite hsame hnext
    exact ⟨next, rfl, hname, by rwa [if_pos hsame]⟩
  · have hother := (hcollects.continues_iff sample).not.mp hends
    obtain ⟨hname, hfirst⟩ :=
      (collects_fresh accumulator.name).of_add_eq_ok hbucket hfinite (by simp) hnext
    exact ⟨next, rfl, hname, by rwa [if_neg hother]⟩

/-- An accepted sample that is not refused leaves a state that knows of it. -/
theorem Knows.of_acceptSample {calls : List Call} {state : State} (hknows : Knows calls state)
    {sample : Sample} {raw : Text} {filter : SampleFilter} (haccepts : filter.accepts sample = true)
    (hfinite : sample.value.isFinite = true) {transition : Transition}
    (haccept : acceptSample state sample raw = .ok transition) :
    Knows (calls ++ [⟨.sample sample, raw, filter⟩]) transition.state := by
  cases hknows with
  | idle hdeclared hhistogram hsummary =>
    cases haccept
    exact (Knows.idle hdeclared hhistogram hsummary).of_aside rfl (by simp)
  | @collecting type accumulator hdeclared hcollects hsummary =>
    cases type with
    | summary => cases haccept
    | histogram =>
      rcases acceptSample_eq_ok haccept with ⟨hbucket, hadd⟩ | ⟨htotal, sum, count, rfl⟩
      · obtain ⟨next, hstate, hname, hcollected⟩ :=
          hcollects.of_addBucket_eq_ok hbucket hfinite hadd
        have hlines : bucketLines next.name (calls ++ [⟨.sample sample, raw, filter⟩]) =
            bucketLines accumulator.name calls ++ [sample] := by
          rw [bucketLines_concat calls rfl, hname]
          simp [Call.bucket?, haccepts, hbucket]
        rw [hstate]
        refine .collecting ?_ (hlines ▸ hcollected) (by simp)
        rw [lastHeader?_concat calls rfl, hname]
        exact hdeclared
      · have hkept : Knows calls (.collecting .histogram { accumulator with sum, count }) :=
          .collecting hdeclared (hcollects.withTotals sum count) (by simp)
        refine hkept.of_aside rfl ?_
        rintro _ _ ⟨⟩
        simp [Call.bucket?, htotal.not_isBucketOf]

/-- A call that succeeds leaves a state that knows of it. -/
theorem Knows.of_advance {calls : List Call} {state : State} (hknows : Knows calls state) {call : Call}
    (hfinite : call.hasFiniteValue = true) {transition : Transition}
    (hadvance : advance state call.line call.raw call.filter = .ok transition) :
    Knows (calls ++ [call]) transition.state := by
  obtain ⟨line, raw, filter⟩ := call
  cases line with
  | blank | comment | help =>
    cases hadvance
    exact hknows.of_aside rfl fun _ _ _ => rfl
  | type name type =>
    obtain ⟨emitted, -, hnext⟩ := bind_eq_ok_iff.mp hadvance
    cases hnext
    exact knows_ofHeader calls rfl
  | sample sample =>
    simp only [advance] at hadvance
    split at hadvance
    · next haccepts => exact hknows.of_acceptSample haccepts hfinite hadvance
    · next hrejected =>
      cases hadvance
      refine hknows.of_aside rfl fun _ _ _ => ?_
      simp [Call.bucket?, hrejected]

/-- A state that calls lead to knows of all of them. -/
theorem knows_of_reached {calls : List Call} {state : State}
    (hreached : advanceAll .initial calls = .ok state)
    (hfinite : ∀ call ∈ calls, call.hasFiniteValue = true) :
    Knows calls state := by
  -- A call is read in the state that those before it have led to, so the calls grow at their end.
  induction calls using List.reverseRecOn generalizing state with
  | nil =>
    cases hreached
    exact knows_initial
  | append_singleton before call ih =>
    obtain ⟨reached, transition, hbefore, hadvance, rfl⟩ := advanceAll_concat_eq_ok hreached
    have hearlier := ih hbefore fun other hmem => hfinite other (List.mem_append_left _ hmem)
    exact hearlier.of_advance (hfinite call (by simp)) hadvance

/-! ### What it comes to -/

/-- What is collected, given the accepted bucket lines since the header. -/
structure Accumulator.Consistent (accumulator : Accumulator) (lines : List Sample) : Prop where
  touched : accumulator.touched = true ↔ accumulator.series ≠ none
  filled : accumulator.buckets ≠ [] → accumulator.touched = true
  /-- Each count differs from the one before it, the first one from zero. -/
  changes : (0 :: accumulator.buckets.map CumulativeBucket.count).IsChain
    fun before count => count.equals before = false
  /-- The series is that of the last line. -/
  series : accumulator.series = lines.getLast?.map seriesKey
  /-- The last count kept equals the last count seen, which is zero if there is no line. -/
  lastCount : accumulator.lastCount.equals (Run.lastValue 0 lines) = true
  /-- The buckets are those of the changes in the last lines of one series. -/
  buckets : Run.buckets? (currentRun lines) = some accumulator.buckets
  /-- Each bucket is that of a line of the current series. -/
  current : ∃ kept, kept.Sublist lines ∧ List.Forall₂ (fun sample bucket =>
    accumulator.series = some (seriesKey sample) ∧ sample.toBucket? = some bucket)
      kept accumulator.buckets

/-- What is said of the accumulator follows from the run that it stands for. -/
theorem Accumulator.Collects.consistent {accumulator : Accumulator} {lines : List Sample}
    (hcollects : accumulator.Collects (currentRun lines)) : accumulator.Consistent lines := by
  have hkept := Run.forall₂_of_buckets? hcollects.buckets
  have hlast := getLast?_currentRun lines
  have hseries : accumulator.series = lines.getLast?.map seriesKey := by
    rw [← hlast]
    cases hfound : (currentRun lines).getLast? with
    | none => exact hcollects.fresh (List.getLast?_eq_none_iff.mp hfound)
    | some last => exact hcollects.series last (List.mem_of_getLast? hfound)
  have htouched : accumulator.touched = true ↔ currentRun lines ≠ [] := by
    rw [hcollects.touched, Bool.not_eq_true', List.isEmpty_eq_false_iff]
  refine ⟨?_, ?_, ?_, hseries, ?_, hcollects.buckets, ?_⟩
  · rw [htouched, hseries, ← hlast]
    simp
  · intro hfilled
    apply htouched.mpr
    intro hempty
    rw [hempty] at hkept
    exact hfilled (List.forall₂_nil_left_iff.mp hkept)
  · rw [Run.map_count_of_buckets? hcollects.buckets]
    exact Run.isChain_changes 0 _
  · rw [Run.lastValue, ← hlast]
    exact hcollects.lastCount
  · have hchanges := Run.changes_sublist 0 (currentRun lines)
    refine ⟨_, hchanges.trans (currentRun_suffix lines).sublist, ?_⟩
    rw [List.forall₂_and_left]
    exact ⟨fun sample hmem => hcollects.series sample (hchanges.subset hmem), hkept⟩

/-- What every state says that successful calls lead to from the initial one, whatever their lines and
filters, as long as the values are finite.

Between histograms the remembered type is that of the last header, and neither a histogram nor a
summary. Below the header of a histogram what is collected is consistent with the accepted bucket
lines since that header. Below the header of a summary nothing is ever collected, so that nothing is
emitted for it. -/
theorem state_of_reached {calls : List Call} {state : State}
    (hreached : advanceAll .initial calls = .ok state)
    (hfinite : ∀ call ∈ calls, call.hasFiniteValue = true) :
    match state with
    | .idle declared =>
      declared = (lastHeader? calls).map Prod.snd ∧
        declared ≠ some .histogram ∧ declared ≠ some .summary
    | .collecting type accumulator =>
      lastHeader? calls = some (accumulator.name, type.toMetricType) ∧
        accumulator.Consistent (bucketLines accumulator.name calls) ∧
        (type = .summary →
          accumulator = { name := accumulator.name } ∧ flush (.collecting type accumulator) = .ok []) := by
  cases knows_of_reached hreached hfinite with
  | idle hdeclared hhistogram hsummary => exact ⟨hdeclared, hhistogram, hsummary⟩
  | @collecting type accumulator hheader hcollects hsummary =>
    refine ⟨hheader, hcollects.consistent, fun htype => ?_⟩
    have hfresh := hsummary htype
    refine ⟨hfresh, ?_⟩
    rw [hfresh]
    rfl

/-- Two shards of one histogram, the first without observations: a line repeats the count before it,
a sum stands between bucket lines, and the filter of one call rejects its bucket line. -/
def shardedCalls : List Call := [
  ⟨.type "wait" .histogram, "# TYPE wait histogram".toList, {}⟩,
  ⟨.sample ⟨"wait_bucket", Labels.ofPairs [("shard", "0"), ("le", "1")], 0⟩, [], {}⟩,
  ⟨.sample ⟨"wait_sum", Labels.ofPairs [("shard", "0")], 0⟩, [], {}⟩,
  ⟨.sample ⟨"wait_bucket", Labels.ofPairs [("shard", "1"), ("le", "1")], 3⟩, [], {}⟩,
  ⟨.sample ⟨"wait_bucket", Labels.ofPairs [("shard", "1"), ("le", "2")], 3⟩, [], {}⟩,
  ⟨.sample ⟨"wait_bucket", Labels.ofPairs [("shard", "2"), ("le", "2")], 8⟩, [], { name := "rest" }⟩,
  ⟨.sample ⟨"wait_bucket", Labels.ofPairs [("shard", "1"), ("le", "4")], 5⟩, [], {}⟩]

def shardedAccumulator : Accumulator where
  name := "wait"
  series := some "shard=\"1\"".toList
  buckets := [⟨1, 3⟩, ⟨4, 5⟩]
  touched := true

theorem state_of_reached_shardedCalls :
    advanceAll .initial shardedCalls = .ok (.collecting .histogram shardedAccumulator) ∧
      shardedAccumulator.Consistent (bucketLines "wait" shardedCalls) := by
  have hreached : advanceAll .initial shardedCalls =
      .ok (.collecting .histogram shardedAccumulator) :=
    toOption_eq_some_iff.mp (by decide +kernel)
  have hfinite : ∀ call ∈ shardedCalls, call.hasFiniteValue = true := by decide +kernel
  exact ⟨hreached, (state_of_reached hreached hfinite).2.1⟩

end Exposition

end ExporterAudit
