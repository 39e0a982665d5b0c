import ExporterAudit.Proofs.Exposition.Stepping
import ExporterAudit.Proofs.Labels.Key
import ExporterAudit.Proofs.Line.Parts

/-!
Two consecutive bucket lines of a histogram. The reader compares the keys of their series, and as
long as the values of the labels are delimited it thereby compares the label sets: the lines go into
one record exactly if their labels without the bound are the same, and another series emits the
record of the one before. Values that are not delimited can make two series one.
-/

namespace ExporterAudit.Exposition

/-- The labels of a sample were read from a block. -/
theorem exists_read_labels {raw : Text} {sample : Sample}
    (hread : Line.read raw = .ok (.sample sample)) :
    ∃ block, LabelBlock.read block = .ok sample.labels := by
  obtain ⟨parts, -, -, -, hlabels⟩ := Line.exists_spells_of_read hread
  exact ⟨_, hlabels⟩

/-- Labels that are read from a line have no equals sign in their names. -/
theorem named_of_read {raw : Text} {sample : Sample} (hread : Line.read raw = .ok (.sample sample)) :
    sample.labels.Named := by
  obtain ⟨block, hblock⟩ := exists_read_labels hread
  exact LabelBlock.named_of_read hblock

/-- The labels that tell the series of bucket lines apart. -/
def seriesLabels (sample : Sample) : Labels :=
  sample.labels.without [boundLabel]

/-- Two consecutive bucket lines of a histogram in lines that are accepted up to the second one. -/
structure BucketPair (filter : SampleFilter) where
  before : List Text
  first : Text
  between : List Text
  second : Text
  firstSample : Sample
  secondSample : Sample
  /-- What has been collected and emitted before the first of the lines. -/
  accumulator : Accumulator
  earlier : List Record
  /-- What the reader knows before the second of the lines. -/
  reached : Transition
  enters : stepAll filter .initial before = .ok ⟨.collecting .histogram accumulator, earlier⟩
  reaches : stepAll filter (.collecting .histogram accumulator) (first :: between) = .ok reached
  isFirst : IsBucketLine filter accumulator.name first firstSample
  isSecond : IsBucketLine filter accumulator.name second secondSample
  isBetween : ∀ raw ∈ between, isAside filter accumulator.name raw = true

namespace BucketPair

variable {filter : SampleFilter}

/-- Whether the lines are of one series. -/
def sameSeries (pair : BucketPair filter) : Bool :=
  (seriesLabels pair.firstSample).same (seriesLabels pair.secondSample)

/-- The values that tell the series of the lines apart are delimited. -/
def Delimited (pair : BucketPair filter) : Prop :=
  (seriesLabels pair.firstSample).Delimited ∧ (seriesLabels pair.secondSample).Delimited

instance (pair : BucketPair filter) : Decidable pair.Delimited :=
  inferInstanceAs (Decidable (_ ∧ _))

/-- As long as values are delimited, keys tell label sets apart. -/
theorem seriesKey_eq_iff (pair : BucketPair filter) (hdelimited : pair.Delimited) :
    seriesKey pair.firstSample = seriesKey pair.secondSample ↔ pair.sameSeries = true :=
  Labels.key_eq_iff_same ((named_of_read pair.isFirst.read).without _)
    ((named_of_read pair.isSecond.read).without _) hdelimited.1 hdelimited.2

/-- Before the second line the series of the first is still the one collected. -/
theorem reached_isAt (pair : BucketPair filter) :
    ∃ collected, pair.reached.state = .collecting .histogram collected ∧
      collected.IsAt pair.accumulator.name (seriesKey pair.firstSample) := by
  obtain ⟨first, others, hfirst, hothers, hreached⟩ := stepAll_cons_eq_ok pair.reaches
  rw [step_bucketLine pair.isFirst] at hfirst
  obtain ⟨started, hstate, hstarted⟩ := isAt_of_addBucket hfirst
  rw [hstate] at hothers
  obtain ⟨-, collected, hcollecting, hat⟩ := stepAll_asides pair.isBetween hstarted hothers
  exact ⟨collected, by rw [hreached]; exact hcollecting, hat⟩

theorem read_eq (pair : BucketPair filter) (after : List Text) :
    read (pair.before ++ (pair.first :: pair.between ++ pair.second :: after)) filter =
      .after (pair.earlier ++ pair.reached.emitted)
        (readFrom filter pair.reached.state (pair.second :: after)) := by
  rw [read, readFrom_append pair.enters, readFrom_append pair.reaches, after_after]

/-- The second line is added to what is collected if the lines are of one series. Otherwise the
record collected so far is emitted, and the line is the first of the next one. -/
theorem step_second (pair : BucketPair filter) (hdelimited : pair.Delimited) :
    ∃ collected, pair.reached.state = .collecting .histogram collected ∧
      collected.IsAt pair.accumulator.name (seriesKey pair.firstSample) ∧
      step filter pair.reached.state pair.second =
        if pair.sameSeries then
          (collected.add pair.secondSample pair.second).map fun next =>
            ⟨.collecting .histogram next, []⟩
        else
          (Record.ofCumulative collected.name collected.buckets).bind fun record =>
            (Accumulator.add { name := collected.name } pair.secondSample pair.second).map
              fun next => ⟨.collecting .histogram next, [record]⟩ := by
  obtain ⟨collected, hstate, hat⟩ := pair.reached_isAt
  refine ⟨collected, hstate, hat, ?_⟩
  rw [hstate, step_bucketLine_of_isAt hat pair.isSecond, hat.name]
  simp only [pair.seriesKey_eq_iff hdelimited]

end BucketPair

/-- Series with delimited values are never merged. Two label sets that are read and are the same
have one key, whatever their values hold; with delimited values they have one key only if they are
the same. So if they are the labels of two consecutive bucket lines of a histogram, the second line
is added to the record of the first exactly if both are of one series, and another series always
emits the record collected so far. -/
theorem series_never_merged {block other : Text} {a b : Labels}
    (ha : LabelBlock.read block = .ok a) (hb : LabelBlock.read other = .ok b) :
    (a.same b = true → a.key = b.key) ∧
    (a.Delimited → b.Delimited → (a.key = b.key ↔ a.same b = true)) ∧
    (∀ (filter : SampleFilter) (pair : BucketPair filter), pair.firstSample.labels = a →
      pair.secondSample.labels = b → pair.Delimited →
      ∃ collected, pair.reached.state = .collecting .histogram collected ∧
        collected.IsAt pair.accumulator.name (seriesKey pair.firstSample) ∧
        (∀ after, read (pair.before ++ (pair.first :: pair.between ++ pair.second :: after)) filter =
          .after (pair.earlier ++ pair.reached.emitted)
            (readFrom filter pair.reached.state (pair.second :: after))) ∧
        step filter pair.reached.state pair.second =
          if (a.without [boundLabel]).same (b.without [boundLabel]) then
            (collected.add pair.secondSample pair.second).map fun next =>
              ⟨.collecting .histogram next, []⟩
          else
            (Record.ofCumulative collected.name collected.buckets).bind fun record =>
              (Accumulator.add { name := collected.name } pair.secondSample pair.second).map
                fun next => ⟨.collecting .histogram next, [record]⟩) := by
  refine ⟨Labels.key_eq_of_same, ?_, ?_⟩
  · exact Labels.key_eq_iff_same (LabelBlock.named_of_read ha) (LabelBlock.named_of_read hb)
  · rintro filter pair rfl rfl hdelimited
    obtain ⟨collected, hstate, hat, hstep⟩ := pair.step_second hdelimited
    exact ⟨collected, hstate, hat, pair.read_eq, hstep⟩

/-- The last bucket line of one shard and the first of the next. -/
def nextShard : BucketPair {} where
  before := ["# TYPE wait histogram".toList, "wait_bucket\x7bshard=\"0\",le=\"2\"\x7d 1".toList]
  first := "wait_bucket\x7bshard=\"0\",le=\"4\"\x7d 3".toList
  between := ["wait_sum\x7bshard=\"0\"\x7d 9".toList, "# the next shard".toList]
  second := "wait_bucket\x7ble=\"2\",shard=\"1\"\x7d 3".toList
  firstSample := ⟨"wait_bucket", Labels.ofPairs [("shard", "0"), ("le", "4")], 3⟩
  secondSample := ⟨"wait_bucket", Labels.ofPairs [("le", "2"), ("shard", "1")], 3⟩
  accumulator := ⟨"wait", some "shard=\"0\"".toList, [⟨2, 1⟩], 0, 0, true⟩
  earlier := []
  reached := ⟨.collecting .histogram
    ⟨"wait", some "shard=\"0\"".toList, [⟨2, 1⟩, ⟨4, 3⟩], 9, 0, true⟩, []⟩
  enters := toOption_eq_some_iff.mp (by decide +kernel)
  reaches := toOption_eq_some_iff.mp (by decide +kernel)
  isFirst := ⟨toOption_eq_some_iff.mp (by decide +kernel), by decide +kernel, by decide +kernel⟩
  isSecond := ⟨toOption_eq_some_iff.mp (by decide +kernel), by decide +kernel, by decide +kernel⟩
  isBetween := by decide +kernel

theorem series_never_merged_nextShard :
    LabelBlock.read "shard=\"0\",le=\"4\"".toList = .ok nextShard.firstSample.labels ∧
    LabelBlock.read "le=\"2\",shard=\"1\"".toList = .ok nextShard.secondSample.labels ∧
    nextShard.Delimited ∧
      ∃ collected, nextShard.reached.state = .collecting .histogram collected ∧
        step {} nextShard.reached.state nextShard.second =
          (Record.ofCumulative collected.name collected.buckets).bind fun record =>
            (Accumulator.add { name := collected.name } nextShard.secondSample
              nextShard.second).map fun next => ⟨.collecting .histogram next, [record]⟩ := by
  have hfirst : LabelBlock.read "shard=\"0\",le=\"4\"".toList = .ok nextShard.firstSample.labels :=
    toOption_eq_some_iff.mp (by decide +kernel)
  have hsecond : LabelBlock.read "le=\"2\",shard=\"1\"".toList =
      .ok nextShard.secondSample.labels := toOption_eq_some_iff.mp (by decide +kernel)
  have hdelimited : nextShard.Delimited := by decide +kernel
  have hother : nextShard.sameSeries = false := by decide +kernel
  obtain ⟨-, -, hpairs⟩ := series_never_merged hfirst hsecond
  obtain ⟨collected, hstate, -, -, hstep⟩ := hpairs {} nextShard rfl rfl hdelimited
  refine ⟨hfirst, hsecond, hdelimited, collected, hstate, ?_⟩
  rw [hstep, if_neg]
  exact Bool.eq_false_iff.mp hother

/-- Two bucket lines of different labels, the value of the first written with escaped quotes. -/
def quotedValue : BucketPair {} where
  before := ["# TYPE wait histogram".toList]
  first := "wait_bucket\x7bshard=\"0\\\",zone=\\\"1\",le=\"2\"\x7d 1".toList
  between := []
  second := "wait_bucket\x7bshard=\"0\",zone=\"1\",le=\"2\"\x7d 1".toList
  firstSample := ⟨"wait_bucket", Labels.ofPairs [("shard", "0\",zone=\"1"), ("le", "2")], 1⟩
  secondSample := ⟨"wait_bucket", Labels.ofPairs [("shard", "0"), ("zone", "1"), ("le", "2")], 1⟩
  accumulator := ⟨"wait", none, [], 0, 0, false⟩
  earlier := []
  reached := ⟨.collecting .histogram
    ⟨"wait", some "shard=\"0\",zone=\"1\"".toList, [⟨2, 1⟩], 0, 0, true⟩, []⟩
  enters := toOption_eq_some_iff.mp (by decide +kernel)
  reaches := toOption_eq_some_iff.mp (by decide +kernel)
  isFirst := ⟨toOption_eq_some_iff.mp (by decide +kernel), by decide +kernel, by decide +kernel⟩
  isSecond := ⟨toOption_eq_some_iff.mp (by decide +kernel), by decide +kernel, by decide +kernel⟩
  isBetween := by decide +kernel

/-- A value that is not delimited passes for two labels: label sets that differ are read and have one
key, and the bucket lines of the two series end up in one record. -/
theorem series_merged_of_quotedValue :
    (∃ block other a b, LabelBlock.read block = .ok a ∧ LabelBlock.read other = .ok b ∧
      a.key = b.key ∧ a.same b = false) ∧
    quotedValue.sameSeries = false ∧
    (read (quotedValue.before ++ (quotedValue.first :: quotedValue.between ++
      [quotedValue.second])) {}).records.length = 1 := by
  have hkey : seriesKey quotedValue.firstSample = seriesKey quotedValue.secondSample := by
    have hfirst : (seriesLabels quotedValue.firstSample).key = _ :=
      Labels.key_eq_toText (by decide +kernel)
    have hsecond : (seriesLabels quotedValue.secondSample).key = _ :=
      Labels.key_eq_toText (by decide +kernel)
    change (seriesLabels _).key = (seriesLabels _).key
    rw [hfirst, hsecond]
    decide +kernel
  have hdiffers : quotedValue.sameSeries = false := by decide +kernel
  refine ⟨⟨"shard=\"0\\\",zone=\\\"1\"".toList, "shard=\"0\",zone=\"1\"".toList,
    seriesLabels quotedValue.firstSample, seriesLabels quotedValue.secondSample,
    toOption_eq_some_iff.mp (by decide +kernel), toOption_eq_some_iff.mp (by decide +kernel), hkey, hdiffers⟩,
    hdiffers, ?_⟩
  obtain ⟨collected, hstate, hat⟩ := quotedValue.reached_isAt
  have hstep := step_bucketLine_of_isAt hat quotedValue.isSecond
  rw [if_pos hkey, ← hstate] at hstep
  rw [quotedValue.read_eq [], readFrom, hstep]
  cases hstate
  decide +kernel

end ExporterAudit.Exposition
