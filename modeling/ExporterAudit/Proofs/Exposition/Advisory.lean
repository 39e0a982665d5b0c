import ExporterAudit.Proofs.Exposition.Components

/-!
Lines that only advise. Remarks say nothing to the reader, and the reported sums and counts of a histogram
are kept where nothing reads them. Two runs over lines that differ in such lines alone go through states
that agree on everything else, so they emit the same records and fail alike.
-/

namespace ExporterAudit.Exposition

/-- Whether a line is blank, a comment or a help text. -/
def isRemark (raw : Text) : Bool :=
  match Line.read raw with
  | .ok .blank | .ok (.comment _) | .ok (.help _ _) => true
  | _ => false

/-- The histogram in whose block the next line stands, if it stands in one: the one that the last type
header declares. -/
def declares (declared : Option Text) (raw : Text) : Option Text :=
  match Line.read raw with
  | .ok (.type name .histogram) => some name
  | .ok (.type _ _) => none
  | _ => declared

/-- Lines, the first of them in the block that is given, and the same lines with some remarks and some
sums and counts of their histogram left out, and some of the other sums and counts reported with other
labels or another value. -/
inductive Reworded : (declared : Option Text) → (lines reworded : List Text) → Prop
  | nil {declared : Option Text} : Reworded declared [] []
  | keep {declared next : Option Text} {raw : Text} {lines reworded : List Text}
      (hnext : declares declared raw = next) (hrest : Reworded next lines reworded) :
      Reworded declared (raw :: lines) (raw :: reworded)
  | leaveRemark {declared : Option Text} {raw : Text} {lines reworded : List Text}
      (hremark : isRemark raw = true) (hrest : Reworded declared lines reworded) :
      Reworded declared (raw :: lines) reworded
  | leaveTotal {name raw : Text} {sample : Sample} {lines reworded : List Text}
      (hread : Line.read raw = .ok (.sample sample)) (htotal : sample.IsTotalOf name)
      (hrest : Reworded (some name) lines reworded) : Reworded (some name) (raw :: lines) reworded
  | reportTotal {name raw other : Text} {sample reported : Sample} {lines reworded : List Text}
      (hread : Line.read raw = .ok (.sample sample)) (htotal : sample.IsTotalOf name)
      (hother : Line.read other = .ok (.sample reported)) (hname : reported.name = sample.name)
      (hrest : Reworded (some name) lines reworded) :
      Reworded (some name) (raw :: lines) (other :: reworded)

theorem step_remark {raw : Text} (hremark : isRemark raw = true) (filter : SampleFilter)
    (state : State) : step filter state raw = .ok { state } := by
  unfold isRemark at hremark
  cases hread : Line.read raw with
  | error failure => simp [hread] at hremark
  | ok line =>
    rw [step_of_read hread]
    cases line with
    | blank | comment | help => rfl
    | type | sample => simp [hread] at hremark

/-! ### The histogram that a state belongs to -/

/-- The histogram whose lines the reader collects. -/
def State.declared? : State → Option Text
  | .collecting .histogram accumulator => some accumulator.name
  | _ => none

/-- Only the header of a histogram declares one. -/
theorem declared?_ofHeader (name : Text) (type : MetricType) :
    (State.ofHeader name type).declared? = if type = .histogram then some name else none := by
  cases type <;> rfl

/-- Samples declare nothing, so what is declared stays until the next header. -/
theorem declared?_acceptSample {state : State} {sample : Sample} {raw : Text}
    {transition : Transition} (haccept : acceptSample state sample raw = .ok transition) :
    transition.state.declared? = state.declared? := by
  cases state with
  | idle declared =>
    cases haccept
    rfl
  | collecting type accumulator =>
    cases type with
    | summary => cases haccept
    | histogram =>
      rcases acceptSample_eq_ok haccept with ⟨-, hadd⟩ | ⟨-, _, _, rfl⟩
      · obtain ⟨⟨next, hstate, hname⟩, -⟩ := addBucket_eq_ok hadd
        rw [hstate]
        exact congrArg some hname
      · rfl

/-- The reader collects for the histogram that the lines so far declare. -/
theorem declared?_step {filter : SampleFilter} {state : State} {raw : Text} {transition : Transition}
    (hstep : step filter state raw = .ok transition) :
    transition.state.declared? = declares state.declared? raw := by
  obtain ⟨line, hread, hadvance⟩ := bind_eq_ok_iff.mp hstep
  unfold declares
  rw [hread]
  cases line with
  | blank | comment | help =>
    cases hadvance
    rfl
  | type name type =>
    obtain ⟨emitted, -, hnext⟩ := bind_eq_ok_iff.mp hadvance
    cases hnext
    rw [declared?_ofHeader]
    cases type <;> rfl
  | sample sample =>
    rw [advance] at hadvance
    split at hadvance
    · exact declared?_acceptSample hadvance
    · cases hadvance
      rfl

/-! ### States up to the reported totals -/

def Accumulator.withoutTotals (accumulator : Accumulator) : Accumulator :=
  { accumulator with sum := 0, count := 0 }

def State.withoutTotals : State → State
  | .idle declared => .idle declared
  | .collecting type accumulator => .collecting type accumulator.withoutTotals

def Transition.withoutTotals (transition : Transition) : Transition :=
  { transition with state := transition.state.withoutTotals }

theorem withoutTotals_withoutTotals (state : State) :
    state.withoutTotals.withoutTotals = state.withoutTotals := by
  cases state <;> rfl

/-- A record is made of buckets, so the reported totals can be forgotten before it is emitted. -/
theorem flush_withoutTotals (state : State) : flush state.withoutTotals = flush state := by
  cases state with
  | idle declared => rfl
  | collecting type accumulator =>
    obtain ⟨name, series, buckets, sum, count, touched⟩ := accumulator
    cases touched <;> rfl

/-- Forgetting the totals commutes with adding a bucket line. -/
theorem add_withoutTotals (accumulator : Accumulator) (sample : Sample) (raw : Text) :
    accumulator.withoutTotals.add sample raw =
      (accumulator.add sample raw).map Accumulator.withoutTotals := by
  have hlast : accumulator.withoutTotals.lastCount = accumulator.lastCount := rfl
  unfold Accumulator.add
  rw [hlast]
  split
  · rfl
  · cases bound sample raw <;> rfl

theorem addBucket_withoutTotals (type : CollectedType) (accumulator : Accumulator) (sample : Sample)
    (raw : Text) :
    (addBucket type accumulator.withoutTotals sample raw).map Transition.withoutTotals =
      (addBucket type accumulator sample raw).map Transition.withoutTotals := by
  have hflush := flush_withoutTotals (.collecting type accumulator)
  by_cases hcontinues : accumulator.series.all (· == seriesKey sample) = true
  · rw [addBucket_of_continues hcontinues, addBucket_of_continues (by exact hcontinues),
      add_withoutTotals]
    cases accumulator.add sample raw <;> rfl
  · rw [addBucket_of_ends hcontinues, addBucket_of_ends (by exact hcontinues)]
    change ((flush (State.collecting type accumulator).withoutTotals).bind _).map _ = _
    rw [hflush]
    rfl

theorem acceptSample_withoutTotals (state : State) (sample : Sample) (raw : Text) :
    (acceptSample state.withoutTotals sample raw).map Transition.withoutTotals =
      (acceptSample state sample raw).map Transition.withoutTotals := by
  cases state with
  | idle declared => rfl
  | collecting type accumulator =>
    cases type with
    | summary => rfl
    | histogram =>
      have hname : accumulator.withoutTotals.name = accumulator.name := rfl
      simp only [State.withoutTotals, acceptSample, hname]
      split
      · exact addBucket_withoutTotals .histogram accumulator sample raw
      · split
        · rfl
        · split <;> rfl

/-- No line does anything else because of the totals reported before it. -/
theorem step_withoutTotals (filter : SampleFilter) (state : State) (raw : Text) :
    (step filter state.withoutTotals raw).map Transition.withoutTotals =
      (step filter state raw).map Transition.withoutTotals := by
  have hstays : (Except.ok { state := state.withoutTotals } : Except Failure Transition).map
      Transition.withoutTotals = .ok { state := state.withoutTotals } := by
    simp [Except.map, Transition.withoutTotals, withoutTotals_withoutTotals]
  cases hread : Line.read raw with
  | error failure => rw [step, step, hread]; rfl
  | ok line =>
    rw [step_of_read hread, step_of_read hread]
    cases line with
    | blank | comment | help => exact hstays
    | type name type =>
      rw [advance, advance, flush_withoutTotals]
    | sample sample =>
      rw [advance, advance]
      split
      · exact acceptSample_withoutTotals state sample raw
      · exact hstays

/-- The rest of a page is read alike with the totals and without them. -/
theorem readFrom_withoutTotals (filter : SampleFilter) (state : State) (lines : List Text) :
    readFrom filter state.withoutTotals lines = readFrom filter state lines := by
  induction lines generalizing state with
  | nil => rw [readFrom, readFrom, flush_withoutTotals]
  | cons raw rest ih =>
    have hstep := step_withoutTotals filter state raw
    rw [readFrom, readFrom]
    cases hleft : step filter state.withoutTotals raw with
    | error failure =>
      cases hright : step filter state raw with
      | error other => simp_all [Except.map]
      | ok transition => simp [hleft, hright, Except.map] at hstep
    | ok transition =>
      cases hright : step filter state raw with
      | error other => simp [hleft, hright, Except.map] at hstep
      | ok other =>
        have hsame : transition.withoutTotals = other.withoutTotals := by
          simpa [hleft, hright, Except.map] using hstep
        obtain ⟨hstate, hemitted⟩ : transition.state.withoutTotals = other.state.withoutTotals ∧
            transition.emitted = other.emitted := by
          simpa [Transition.withoutTotals] using hsame
        simp only [hemitted]
        rw [← ih transition.state, hstate, ih other.state]

/-- A reported sum or count makes no difference to the lines behind it. -/
theorem readFrom_total {raw : Text} {sample : Sample} (hread : Line.read raw = .ok (.sample sample))
    {state : State} {name : Text} (hdeclared : state.declared? = some name)
    (htotal : sample.IsTotalOf name) (filter : SampleFilter) (rest : List Text) :
    readFrom filter state (raw :: rest) = readFrom filter state rest := by
  obtain ⟨accumulator, rfl, rfl⟩ : ∃ accumulator, state = .collecting .histogram accumulator ∧
      name = accumulator.name := by
    cases state with
    | idle => cases hdeclared
    | collecting type accumulator =>
      cases type with
      | summary => cases hdeclared
      | histogram => exact ⟨accumulator, rfl, (Option.some.inj hdeclared).symm⟩
  obtain ⟨sum, count, hstep⟩ := step_total hread htotal filter
  rw [readFrom, hstep]
  change readFrom filter (.collecting .histogram { accumulator with sum, count }) rest = _
  rw [← readFrom_withoutTotals, ← readFrom_withoutTotals filter (.collecting .histogram accumulator)]
  rfl

/-- Reworded lines are read alike from any state that has declared the same histogram. -/
theorem Reworded.readFrom_eq {declared : Option Text} {lines reworded : List Text}
    (hreworded : Reworded declared lines reworded) {state : State}
    (hdeclared : state.declared? = declared) (filter : SampleFilter) :
    readFrom filter state lines = readFrom filter state reworded := by
  -- The lines that are kept lead both runs to the same state; the others leave both where they are.
  induction hreworded generalizing state with
  | nil => rfl
  | @keep declared next raw lines reworded hnext hrest ih =>
    rw [readFrom, readFrom]
    cases hstep : step filter state raw with
    | error failure => rfl
    | ok transition =>
      have hmoved : transition.state.declared? = next := by
        rw [declared?_step hstep, hdeclared, hnext]
      simp only [ih hmoved]
  | leaveRemark hremark hrest ih =>
    rw [readFrom, step_remark hremark]
    exact ih hdeclared
  | leaveTotal hread htotal hrest ih =>
    rw [readFrom_total hread hdeclared htotal]
    exact ih hdeclared
  | @reportTotal name raw other sample reported lines reworded hread htotal hother hname hrest ih =>
    have hreported : reported.IsTotalOf name := by
      unfold Sample.IsTotalOf
      rw [hname]
      exact htotal
    rw [readFrom_total hread hdeclared htotal, readFrom_total hother hdeclared hreported]
    exact ih hdeclared

/-- Advisory lines do not interfere. Leaving out blank lines, comments and help texts anywhere, leaving
out sums and counts of a histogram in its block, and reporting other sums and counts there with any
labels and values, does not change what reading the lines comes to: the same records in the same order,
and the same failure if there is one, whatever the filter takes. -/
theorem advisory_lines_do_not_interfere {lines reworded : List Text}
    (hreworded : Reworded none lines reworded) (filter : SampleFilter) :
    read lines filter = read reworded filter :=
  hreworded.readFrom_eq rfl filter

/-- A series with totals and remarks between its bucket lines, up to a bound that is no number. -/
def advisedPage : List Text :=
  ["# HELP wait Time in the queue".toList,
    "# TYPE wait histogram".toList,
    "wait_bucket\x7bshard=\"0\",le=\"2\"\x7d 1".toList,
    "wait_sum\x7bshard=\"7\"\x7d NaN".toList,
    "".toList,
    "wait_bucket\x7bshard=\"1\",le=\"4\"\x7d 3".toList,
    "wait_count 3".toList,
    "wait_bucket\x7ble=\"high\"\x7d 9".toList]

def rewordedPage : List Text :=
  ["# TYPE wait histogram".toList,
    "wait_bucket\x7bshard=\"0\",le=\"2\"\x7d 1".toList,
    "wait_sum\x7bshard=\"0\",zone=\"a\"\x7d 12".toList,
    "wait_bucket\x7bshard=\"1\",le=\"4\"\x7d 3".toList,
    "wait_bucket\x7ble=\"high\"\x7d 9".toList]

theorem reworded_advisedPage : Reworded none advisedPage rewordedPage := by
  have hsum : Line.read "wait_sum\x7bshard=\"7\"\x7d NaN".toList =
      .ok (.sample ⟨"wait_sum", Labels.ofPairs [("shard", "7")], .nan⟩) :=
    toOption_eq_some_iff.mp (by decide +kernel)
  have hother : Line.read "wait_sum\x7bshard=\"0\",zone=\"a\"\x7d 12".toList =
      .ok (.sample ⟨"wait_sum", Labels.ofPairs [("shard", "0"), ("zone", "a")], 12⟩) :=
    toOption_eq_some_iff.mp (by decide +kernel)
  have hcount : Line.read "wait_count 3".toList = .ok (.sample ⟨"wait_count", .empty, 3⟩) :=
    toOption_eq_some_iff.mp (by decide +kernel)
  apply Reworded.leaveRemark (by decide +kernel)
  apply Reworded.keep (show declares _ _ = some "wait".toList by decide +kernel)
  apply Reworded.keep (show declares _ _ = some "wait".toList by decide +kernel)
  apply Reworded.reportTotal hsum (.inl rfl) hother rfl
  apply Reworded.leaveRemark (by decide +kernel)
  apply Reworded.keep (show declares _ _ = some "wait".toList by decide +kernel)
  apply Reworded.leaveTotal hcount (.inr rfl)
  apply Reworded.keep (show declares _ _ = some "wait".toList by decide +kernel)
  exact .nil

theorem advisory_lines_do_not_interfere_lateFailure :
    Reworded none advisedPage rewordedPage ∧
      read advisedPage {} = read rewordedPage {} ∧
      (read advisedPage {}).records.length = 1 ∧ (read advisedPage {}).failure ≠ none := by
  have hreworded := reworded_advisedPage
  refine ⟨hreworded, advisory_lines_do_not_interfere hreworded {}, ?_, ?_⟩
  all_goals decide +kernel

end ExporterAudit.Exposition
