import ExporterAudit.Proofs.Exposition.Components

/-!
Reading the metrics whose names begin alike. The filter looks at the names of samples, and a record goes
by the name of its family. As long as the beginning does not end inside what is appended to the name of
a histogram, a family is read whole or not at all, and filtering lines is filtering records.
-/

namespace ExporterAudit

theorem Text.startsWith_append {name beginning : Text} (hstarts : startsWith name beginning = true)
    (suffix : Text) : startsWith (name ++ suffix) beginning = true := by
  rw [startsWith, List.isPrefixOf_iff_prefix] at *
  exact hstarts.trans (List.prefix_append name suffix)

namespace SampleFilter

/-- The samples whose names begin like this. -/
def named (beginning : Text) : SampleFilter :=
  { name := some beginning }

theorem accepts_named (beginning : Text) (sample : Sample) :
    (named beginning).accepts sample = Text.startsWith sample.name beginning :=
  Bool.and_true _

end SampleFilter

namespace Exposition

/-- Whether the beginning takes the bucket lines of a histogram only together with its name. -/
def takesWhole (beginning name : Text) : Bool :=
  Text.startsWith name beginning || !Text.startsWith (name ++ "_bucket") beginning

/-- Whether a line is not the header of a histogram that the beginning would take in part. -/
def sparesHeader (beginning raw : Text) : Bool :=
  match Line.read raw with
  | .ok (.type name .histogram) => takesWhole beginning name
  | _ => true

/-- A header is spared if its family is taken whole or left out whole. -/
theorem sparesHeader_iff {beginning raw : Text} :
    sparesHeader beginning raw = true ↔
      ∀ name, Line.read raw = .ok (.type name .histogram) →
        Text.startsWith name beginning = true ∨
          Text.startsWith (name ++ "_bucket") beginning = false := by
  unfold sparesHeader
  constructor
  · intro hspares name hread
    simpa [hread, takesWhole] using hspares
  · intro hwhole
    split
    · next name hread => simpa [takesWhole] using hwhole name hread
    · rfl

/-- The records whose names begin like this. -/
def recordsNamed (beginning : Text) (records : List Record) : List Record :=
  records.filter fun record => Text.startsWith record.name beginning

theorem recordsNamed_append (beginning : Text) (first second : List Record) :
    recordsNamed beginning (first ++ second) =
      recordsNamed beginning first ++ recordsNamed beginning second :=
  List.filter_append ..

/-- Records of one name are kept or left out together. -/
theorem recordsNamed_of_name {beginning name : Text} {records : List Record}
    (hname : ∀ record ∈ records, record.name = name) :
    recordsNamed beginning records = if Text.startsWith name beginning then records else [] := by
  have hstarts : ∀ record ∈ records,
      Text.startsWith record.name beginning = Text.startsWith name beginning :=
    fun record hmem => congrArg (Text.startsWith · beginning) (hname record hmem)
  rw [recordsNamed, List.filter_congr hstarts]
  cases Text.startsWith name beginning <;> simp

/-- The records of a family are picked all or none. -/
theorem recordsNamed_of_family {beginning name : Text} {records : List Record}
    (hfamily : ∀ record ∈ records, ∃ counts, record = .histogram name counts) :
    recordsNamed beginning records = if Text.startsWith name beginning then records else [] := by
  apply recordsNamed_of_name
  intro record hmem
  obtain ⟨counts, rfl⟩ := hfamily record hmem
  rfl

/-- What the reader without a filter and the one that takes a beginning know after the same lines. A
histogram is collected alike by both, or is left out by the second. -/
inductive Narrows (beginning : Text) : State → State → Prop
  | idle (declared : Option MetricType) : Narrows beginning (.idle declared) (.idle declared)
  | summary (name : Text) :
      Narrows beginning (.collecting .summary { name }) (.collecting .summary { name })
  | whole {accumulator : Accumulator} (hname : Text.startsWith accumulator.name beginning = true) :
      Narrows beginning (.collecting .histogram accumulator) (.collecting .histogram accumulator)
  | leftOut {accumulator other : Accumulator} (hsame : other.name = accumulator.name)
      (huntouched : other.touched = false)
      (hbucket : Text.startsWith (accumulator.name ++ "_bucket") beginning = false) :
      Narrows beginning (.collecting .histogram accumulator) (.collecting .histogram other)

theorem narrows_ofHeader {beginning name : Text} {type : MetricType}
    (hwhole : type = .histogram → takesWhole beginning name = true) :
    Narrows beginning (State.ofHeader name type) (State.ofHeader name type) := by
  cases type with
  | histogram =>
    by_cases hname : Text.startsWith name beginning = true
    · exact .whole hname
    · apply Narrows.leftOut rfl rfl
      simpa [takesWhole, hname] using hwhole rfl
  | summary => exact .summary name
  | counter | gauge | untyped => exact .idle _

/-- A family that is left out has no record with the name asked for. -/
theorem not_startsWith_of_leftOut {beginning name : Text}
    (hbucket : Text.startsWith (name ++ "_bucket") beginning = false) :
    ¬ Text.startsWith name beginning = true := by
  intro hname
  rw [Text.startsWith_append hname] at hbucket
  cases hbucket

/-- Completing a run emits, of what the whole reading emits, the records asked for. -/
theorem Narrows.flush {beginning : Text} {state narrowed : State}
    (hnarrows : Narrows beginning state narrowed) {emitted : List Record}
    (hflush : Exposition.flush state = .ok emitted) :
    Exposition.flush narrowed = .ok (recordsNamed beginning emitted) := by
  have hfamily {accumulator : Accumulator} (hstate : state = .collecting .histogram accumulator) :
      ∀ record ∈ emitted, ∃ counts, record = .histogram accumulator.name counts := by
    intro record hmem
    obtain ⟨_, _, counts, hcollecting, hrecord⟩ := exists_histogram_of_mem_flush hflush hmem
    cases hstate.symm.trans hcollecting
    exact ⟨counts, hrecord⟩
  cases hnarrows with
  | idle declared =>
    cases hflush
    rfl
  | summary name =>
    cases hflush
    rfl
  | whole hname => rw [recordsNamed_of_family (hfamily rfl), if_pos hname, hflush]
  | @leftOut _ other _ huntouched hbucket =>
    rw [recordsNamed_of_family (hfamily rfl), if_neg (not_startsWith_of_leftOut hbucket)]
    obtain ⟨name, series, buckets, sum, count, touched⟩ := other
    cases huntouched
    rfl

/-- A bucket line goes to both readings or to the whole one only, as its family does. -/
theorem Narrows.bucketLine {beginning : Text} {accumulator : Accumulator} {narrowed : State}
    (hnarrows : Narrows beginning (.collecting .histogram accumulator) narrowed) {raw : Text}
    {sample : Sample} (hread : Line.read raw = .ok (.sample sample))
    (hbucket : sample.IsBucketOf accumulator.name) {transition : Transition}
    (hadd : addBucket .histogram accumulator sample raw = .ok transition) :
    ∃ next, step (.named beginning) narrowed raw = .ok next ∧
      Narrows beginning transition.state next.state ∧
      next.emitted = recordsNamed beginning transition.emitted := by
  obtain ⟨⟨moved, hstate, hmoved⟩, hemitted⟩ := addBucket_eq_ok hadd
  have hsampleName : sample.name = accumulator.name ++ "_bucket" := hbucket
  cases hnarrows with
  | whole hname =>
    have haccepts : (SampleFilter.named beginning).accepts sample = true := by
      rw [SampleFilter.accepts_named, hsampleName]
      exact Text.startsWith_append hname _
    refine ⟨transition, ?_, ?_, ?_⟩
    · rw [step_of_accepts hread haccepts, acceptSample_bucket hbucket, hadd]
    · rw [hstate]
      exact .whole (hmoved ▸ hname)
    · rw [recordsNamed_of_family hemitted, if_pos hname]
  | @leftOut _ other hsame huntouched hpassed =>
    have hrejects : ¬ (SampleFilter.named beginning).accepts sample = true := by
      rw [SampleFilter.accepts_named, hsampleName, hpassed]
      exact Bool.false_ne_true
    refine ⟨_, step_of_not_accepts hread hrejects _, ?_, ?_⟩
    · rw [hstate]
      exact .leftOut (hsame.trans hmoved.symm) huntouched (hmoved ▸ hpassed)
    · rw [recordsNamed_of_family hemitted, if_neg (not_startsWith_of_leftOut hpassed)]

/-- A total may pass where the buckets do not, which changes nothing that is emitted. -/
theorem Narrows.totalLine {beginning : Text} {accumulator : Accumulator} {narrowed : State}
    (hnarrows : Narrows beginning (.collecting .histogram accumulator) narrowed) {raw : Text}
    {sample : Sample} (hread : Line.read raw = .ok (.sample sample))
    (htotal : sample.IsTotalOf accumulator.name) {transition : Transition}
    (haccept : acceptSample (.collecting .histogram accumulator) sample raw = .ok transition) :
    ∃ next, step (.named beginning) narrowed raw = .ok next ∧
      Narrows beginning transition.state next.state ∧
      next.emitted = recordsNamed beginning transition.emitted := by
  obtain ⟨sum, count, hkept⟩ := acceptSample_total htotal raw
  cases hkept.symm.trans haccept
  cases hnarrows with
  | whole hname =>
    have haccepts : (SampleFilter.named beginning).accepts sample = true := by
      rw [SampleFilter.accepts_named]
      rcases htotal with hsum | hcount
      · rw [hsum]
        exact Text.startsWith_append hname _
      · rw [hcount]
        exact Text.startsWith_append hname _
    exact ⟨_, (step_of_accepts hread haccepts _).trans hkept, .whole hname, rfl⟩
  | @leftOut _ other hsame huntouched hpassed =>
    -- A total may pass where the bucket lines do not; it leaves the histogram untouched.
    obtain ⟨sum', count', hstep⟩ := step_total hread (hsame ▸ htotal) (.named beginning)
    exact ⟨_, hstep, .leftOut hsame huntouched hpassed, rfl⟩

/-- A sample of a histogram that is read whole, or one that is left out. -/
theorem Narrows.sample {beginning : Text} {accumulator : Accumulator} {narrowed : State}
    (hnarrows : Narrows beginning (.collecting .histogram accumulator) narrowed) {raw : Text}
    {sample : Sample} (hread : Line.read raw = .ok (.sample sample)) {transition : Transition}
    (haccept : acceptSample (.collecting .histogram accumulator) sample raw = .ok transition) :
    ∃ next, step (.named beginning) narrowed raw = .ok next ∧
      Narrows beginning transition.state next.state ∧
      next.emitted = recordsNamed beginning transition.emitted := by
  rcases acceptSample_eq_ok haccept with ⟨hbucket, hadd⟩ | ⟨htotal, -⟩
  · exact hnarrows.bucketLine hread hbucket hadd
  · exact hnarrows.totalLine hread htotal haccept

/-- One line that the reader without a filter accepts. -/
theorem Narrows.step {beginning : Text} {state narrowed : State}
    (hnarrows : Narrows beginning state narrowed) {raw : Text}
    (hspares : sparesHeader beginning raw = true) {transition : Transition}
    (hstep : Exposition.step {} state raw = .ok transition) :
    ∃ next, Exposition.step (.named beginning) narrowed raw = .ok next ∧
      Narrows beginning transition.state next.state ∧
      next.emitted = recordsNamed beginning transition.emitted := by
  obtain ⟨line, hread, hadvance⟩ := bind_eq_ok_iff.mp hstep
  cases line with
  | blank | comment | help =>
    cases hadvance
    exact ⟨_, step_of_read hread _ _, hnarrows, rfl⟩
  | type name type =>
    obtain ⟨emitted, hflush, hnext⟩ := bind_eq_ok_iff.mp hadvance
    cases hnext
    refine ⟨⟨State.ofHeader name type, recordsNamed beginning emitted⟩, ?_, narrows_ofHeader ?_, rfl⟩
    · rw [step_header hread, hnarrows.flush hflush]
      rfl
    · rintro rfl
      rwa [sparesHeader, hread] at hspares
  | sample sample =>
    have haccepted : ({} : SampleFilter).accepts sample = true := rfl
    rw [advance, if_pos haccepted] at hadvance
    cases hnarrows with
    | idle declared =>
      cases hadvance
      have hrecord : recordsNamed beginning [sample.toRecord] =
          if (SampleFilter.named beginning).accepts sample then [sample.toRecord] else [] := by
        rw [SampleFilter.accepts_named]
        exact recordsNamed_of_name (List.forall_mem_singleton.mpr rfl)
      by_cases haccepts : (SampleFilter.named beginning).accepts sample = true
      · rw [if_pos haccepts] at hrecord
        exact ⟨_, step_of_accepts hread haccepts _, .idle declared, hrecord.symm⟩
      · rw [if_neg haccepts] at hrecord
        exact ⟨_, step_of_not_accepts hread haccepts _, .idle declared, hrecord.symm⟩
    | summary name => cases hadvance
    | whole hname => exact (Narrows.whole hname).sample hread hadvance
    | leftOut hsame huntouched hbucket =>
      exact (Narrows.leftOut hsame huntouched hbucket).sample hread hadvance

/-- Readings that start alike go on alike, and the narrowed one emits the records asked for. -/
theorem Narrows.readFrom {beginning : Text} {state narrowed : State}
    (hnarrows : Narrows beginning state narrowed) {lines : List Text}
    (hspares : ∀ raw ∈ lines, sparesHeader beginning raw = true)
    (hsucceeds : (Exposition.readFrom {} state lines).failure = none) :
    Exposition.readFrom (.named beginning) narrowed lines =
      ⟨recordsNamed beginning (Exposition.readFrom {} state lines).records, none⟩ := by
  -- How the two states go together carries the induction; at the end of the lines it is flushed.
  induction lines generalizing state narrowed with
  | nil =>
    rw [Exposition.readFrom] at hsucceeds ⊢
    cases hflush : Exposition.flush state with
    | error failure =>
      rw [hflush] at hsucceeds
      cases hsucceeds
    | ok emitted =>
      rw [Exposition.readFrom, hflush, hnarrows.flush hflush]
      rfl
  | cons raw rest ih =>
    obtain ⟨hfirst, hrest⟩ := List.forall_mem_cons.mp hspares
    rw [Exposition.readFrom] at hsucceeds ⊢
    cases hstep : Exposition.step {} state raw with
    | error failure =>
      rw [hstep] at hsucceeds
      cases hsucceeds
    | ok transition =>
      obtain ⟨next, hnext, hnarrowed, hemitted⟩ := hnarrows.step hfirst hstep
      rw [hstep] at hsucceeds
      have hlater := ih hnarrowed hrest hsucceeds
      rw [Exposition.readFrom, hstep, hnext]
      simp only [Outcome.after, hlater, hemitted, recordsNamed_append]

/-- Filtering lines by name is filtering records by name. If a page can be read, and the beginning
takes the bucket lines of each histogram on it only together with its name, then the page can also be
read with the beginning as a filter, and its records are those of the whole page whose names begin
like that, in the same order and with the same values. -/
theorem filtering_lines_filters_records {lines : List Text} {beginning : Text}
    (hsucceeds : (read lines {}).failure = none)
    (hspares : ∀ raw ∈ lines, ∀ name, Line.read raw = .ok (.type name .histogram) →
      Text.startsWith name beginning = true ∨
        Text.startsWith (name ++ "_bucket") beginning = false) :
    (read lines { name := some beginning }).failure = none ∧
      (read lines { name := some beginning }).records =
        (read lines {}).records.filter fun record => Text.startsWith record.name beginning := by
  have hwhole : ∀ raw ∈ lines, sparesHeader beginning raw = true :=
    fun raw hmem => sparesHeader_iff.mpr (hspares raw hmem)
  have hnarrowed := (Narrows.idle none).readFrom hwhole hsucceeds
  exact ⟨congrArg Outcome.failure hnarrowed, congrArg Outcome.records hnarrowed⟩

/-- Below the first header the sum passes the name filter and the bucket line does not. -/
def passingSumPage : List Text :=
  ["# TYPE wait histogram".toList,
    "wait_bucket\x7ble=\"2\"\x7d 1".toList,
    "wait_sum 1".toList,
    "# TYPE wait_seconds histogram".toList,
    "wait_seconds_bucket\x7ble=\"4\"\x7d 2".toList,
    "wait_seconds_count 2".toList,
    "# TYPE wait_state gauge".toList,
    "wait_state 7".toList,
    "# TYPE depth gauge".toList,
    "depth 3".toList]

theorem filtering_lines_filters_records_passingSumPage :
    (read passingSumPage {}).failure = none ∧
      (∀ raw ∈ passingSumPage, sparesHeader "wait_s" raw = true) ∧
      (read passingSumPage { name := some "wait_s" }).failure = none ∧
      (read passingSumPage { name := some "wait_s" }).records.map Record.name =
        ["wait_seconds".toList, "wait_state".toList] := by
  have hsucceeds : (read passingSumPage {}).failure = none := by decide +kernel
  have hspares : ∀ raw ∈ passingSumPage, sparesHeader "wait_s" raw = true := by decide +kernel
  obtain ⟨hcomplete, hrecords⟩ := filtering_lines_filters_records hsucceeds
    fun raw hmem => sparesHeader_iff.mp (hspares raw hmem)
  refine ⟨hsucceeds, hspares, hcomplete, ?_⟩
  rw [hrecords]
  decide +kernel

end Exposition

end ExporterAudit
