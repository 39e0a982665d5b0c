import ExporterAudit.Proofs.Binary64.Exact
import ExporterAudit.Proofs.Exposition.Runs
import ExporterAudit.Proofs.Family.Basic

/-!
A family as a block of a page. The runs of a histogram block are the series of its family, so the
records of the block are those of the family.
-/

namespace ExporterAudit

namespace Series

/-- The bound is found among the labels of a bucket line, also if the series has a label of its
name. -/
theorem get?_bucketLabels (series : Series) (bound : Text) :
    (series.bucketLabels bound).get? Exposition.boundLabel = some bound := by
  have habsent : series.labels.entries.lookup Exposition.boundLabel = none := by
    rw [List.lookup_eq_none_iff]
    intro entry hmem
    rw [bne_iff_ne]
    exact fun heq => series.unbounded (heq ▸ List.mem_map_of_mem hmem)
  change (series.labels.entries ++ [(Exposition.boundLabel, bound)]).lookup _ = _
  rw [List.lookup_append, habsent]
  simp

/-- Without its bound a bucket has the labels of its series. -/
theorem key_without_bound (series : Series) (bound : Text) :
    ((series.bucketLabels bound).without [Exposition.boundLabel]).key = series.labels.key := by
  have hkept : ∀ entry ∈ series.labels.entries,
      (!([Exposition.boundLabel].contains entry.1) && entry.1 != Labels.reservedName) = true := by
    intro entry hmem
    have hbound : entry.1 ≠ Exposition.boundLabel := fun heq =>
      series.unbounded (heq ▸ List.mem_map_of_mem hmem)
    simp [hbound, (series.writable entry hmem).2]
  have hentries : ((series.bucketLabels bound).without [Exposition.boundLabel]).entries =
      series.labels.entries := by
    change (series.labels.entries ++ [(Exposition.boundLabel, bound)]).filter _ = _
    rw [List.filter_append, List.filter_eq_self.mpr hkept]
    simp
  rw [Labels.key, Labels.sorted, hentries]
  rfl

end Series

namespace Family

/-- A bucket of a series as a sample. -/
def bucketSample (family : Family) (series : Series) (bucket : BucketLine) : Sample :=
  ⟨family.name ++ "_bucket", series.bucketLabels bucket.bound, bucket.count.value⟩

theorem map_toSample_bucketSamples (family : Family) (series : Series) :
    (family.bucketSamples series).map WrittenSample.toSample =
      series.buckets.map (family.bucketSample series) := by
  rw [bucketSamples, List.map_map]
  rfl

/-- Which buckets change the count does not depend on how they are written. -/
theorem changes_bucketSamples (family : Family) (series : Series) (previous : Binary64)
    (buckets : List BucketLine) :
    Run.changes previous (buckets.map (family.bucketSample series)) =
      (BucketLine.changes previous buckets).map (family.bucketSample series) := by
  induction buckets generalizing previous with
  | nil => rfl
  | cons bucket rest ih =>
    rw [List.map_cons, Run.changes, BucketLine.changes]
    change (if bucket.count.value.equals previous = true then
      Run.changes bucket.count.value _ else _ :: Run.changes bucket.count.value _) = _
    rw [ih]
    split <;> rfl

theorem bound?_bucketSample (family : Family) (series : Series) (bucket : BucketLine) :
    (family.bucketSample series bucket).bound? = Line.value? bucket.bound := by
  rw [Sample.bound?, bucketSample]
  simp only [series.get?_bucketLabels]
  rfl

theorem toBucket?_bucketSample (family : Family) (series : Series) (bucket : BucketLine) :
    (family.bucketSample series bucket).toBucket? = bucket.toBucket? := by
  rw [Sample.toBucket?, bound?_bucketSample]
  rfl

/-- The buckets of a series are a run of bucket lines with the record of the series. -/
theorem record?_bucketSamples (family : Family) (series : Series) :
    Run.record? family.name (series.buckets.map (family.bucketSample series)) =
      series.record? family.name := by
  rw [Run.record?, Run.buckets?, changes_bucketSamples, List.mapM_map]
  simp only [Function.comp_def, toBucket?_bucketSample]
  rfl

/-- All bucket lines of a series have its key, since the bound is left out of it. -/
theorem seriesKey_bucketSample (family : Family) (series : Series) (bucket : BucketLine) :
    Exposition.seriesKey (family.bucketSample series bucket) = series.labels.key :=
  series.key_without_bound bucket.bound

/-- Neighbouring series with different keys are the runs of their bucket lines. -/
theorem split_bucketSamples (family : Family) {members : List Series}
    (hkeys : members.IsChain fun first second => first.labels.key ≠ second.labels.key) :
    Run.split (members.flatMap fun series => series.buckets.map (family.bucketSample series)) =
      members.map fun series => series.buckets.map (family.bucketSample series) := by
  have hkey : ∀ series ∈ members, ∀ sample ∈ series.buckets.map (family.bucketSample series),
      Exposition.seriesKey sample = series.labels.key := by
    intro series _ sample hmem
    obtain ⟨bucket, -, rfl⟩ := List.mem_map.mp hmem
    exact family.seriesKey_bucketSample series bucket
  rw [List.flatMap_def]
  refine List.splitBy_flatten ?_ ?_ ?_
  · rw [List.mem_map]
    rintro ⟨series, -, hempty⟩
    exact series.nonempty (List.map_eq_nil_iff.mp hempty)
  · intro run hmem
    obtain ⟨series, hseries, rfl⟩ := List.mem_map.mp hmem
    refine (List.pairwise_of_forall_mem_list fun first hfirst second hsecond => ?_).isChain
    rw [hkey series hseries first hfirst, hkey series hseries second hsecond, beq_self_eq_true]
  · rw [List.isChain_map]
    refine hkeys.imp_of_mem_imp fun first second hfirst hsecond hdiffer => ?_
    have hleft : first.buckets.map (family.bucketSample first) ≠ [] := by simpa using first.nonempty
    have hright : second.buckets.map (family.bucketSample second) ≠ [] := by simpa using second.nonempty
    refine ⟨hleft, hright, ?_⟩
    rw [hkey first hfirst _ (List.getLast_mem hleft), hkey second hsecond _ (List.head_mem hright)]
    simpa using hdiffer

/-- The samples below the type header of a family. -/
def block (family : Family) : Block :=
  ⟨family.name, family.type, family.samples.map WrittenSample.toSample⟩

theorem filter_accepts_all (samples : List Sample) :
    samples.filter ({} : SampleFilter).accepts = samples :=
  List.filter_eq_self.mpr fun _ _ => rfl

/-- A total of a series as a sample. -/
def totalSample (family : Family) (total : Total × Reading) : Sample :=
  ⟨family.name ++ total.1.suffix, total.2.labels, total.2.token.value⟩

/-- The samples of a histogram family, series by series: the buckets and then the totals. -/
theorem samples_block_of_histogram {family : Family} {members : List Series}
    (hcontent : family.content = .histogram members) :
    family.block.samples = members.flatMap fun series =>
      series.buckets.map (family.bucketSample series) ++ series.totals.map family.totalSample := by
  have hmember (series : Series) :
      (family.bucketSamples series ++ family.totalSamples series).map WrittenSample.toSample =
        series.buckets.map (family.bucketSample series) ++ series.totals.map family.totalSample := by
    rw [List.map_append, map_toSample_bucketSamples, totalSamples, List.map_map]
    rfl
  simp only [block, samples, hcontent, List.map_flatMap, hmember]

theorem isBucketOf_bucketSample (family : Family) (series : Series) (bucket : BucketLine) :
    (family.bucketSample series bucket).IsBucketOf family.name := rfl

theorem not_isBucketOf_totalSample (family : Family) (total : Total × Reading) :
    ¬ (family.totalSample total).IsBucketOf family.name := by
  intro hbucket
  have hsuffix : total.1.suffix = "_bucket".toList := List.append_cancel_left hbucket
  cases htotal : total.1 with
  | sum => rw [htotal] at hsuffix; exact absurd hsuffix (by decide)
  | count => rw [htotal] at hsuffix; exact absurd hsuffix (by decide)

theorem isComponentOf_totalSample (family : Family) (total : Total × Reading) :
    (family.totalSample total).IsComponentOf family.name := by
  unfold totalSample
  cases total.1 with
  | sum => exact .inr (.inl rfl)
  | count => exact .inr (.inr rfl)

/-- A histogram family has no samples but buckets and totals. -/
theorem isComponentOf_of_mem_block {family : Family} {members : List Series}
    (hcontent : family.content = .histogram members) :
    ∀ sample ∈ family.block.samples, sample.IsComponentOf family.name := by
  intro sample hmem
  rw [samples_block_of_histogram hcontent] at hmem
  obtain ⟨series, -, hmem⟩ := List.mem_flatMap.mp hmem
  rcases List.mem_append.mp hmem with hmem | hmem
  · obtain ⟨bucket, -, rfl⟩ := List.mem_map.mp hmem
    exact .inl (family.isBucketOf_bucketSample series bucket)
  · obtain ⟨total, -, rfl⟩ := List.mem_map.mp hmem
    exact family.isComponentOf_totalSample total

theorem filter_isBucketOf_block {family : Family} {members : List Series}
    (hcontent : family.content = .histogram members) :
    family.block.samples.filter (·.IsBucketOf family.name) =
      members.flatMap fun series => series.buckets.map (family.bucketSample series) := by
  have hmember (series : Series) :
      (series.buckets.map (family.bucketSample series) ++ series.totals.map family.totalSample).filter
        (·.IsBucketOf family.name) = series.buckets.map (family.bucketSample series) := by
    rw [List.filter_append, List.filter_eq_self.mpr, List.filter_eq_nil_iff.mpr, List.append_nil]
    · intro sample hmem
      obtain ⟨total, -, rfl⟩ := List.mem_map.mp hmem
      simpa using family.not_isBucketOf_totalSample total
    · intro sample hmem
      obtain ⟨bucket, -, rfl⟩ := List.mem_map.mp hmem
      simpa using family.isBucketOf_bucketSample series bucket
  rw [samples_block_of_histogram hcontent, List.filter_flatMap]
  simp only [hmember]

/-- The records of the block of a family are the records of the family. -/
theorem records?_block {family : Family} (hcoherent : family.Coherent) :
    family.block.records? {} = family.records? := by
  rw [Block.records?, Block.passing, filter_accepts_all]
  cases hcontent : family.content with
  | scalar type readings =>
    have htype : family.block.type = type.toMetricType := by
      simp only [block, Family.type, hcontent]
    have hsamples : family.block.samples.map Sample.toRecord = readings.map fun reading =>
        .scalar family.name reading.token.value reading.labels := by
      simp only [block, samples, hcontent, List.map_map]
      rfl
    rw [htype, Block.recordsOf?_of_scalar (by cases type <;> decide) (by cases type <;> decide), hsamples]
    simp only [records?, hcontent]
  | histogram members =>
    have htype : family.block.type = .histogram := by
      simp only [block, Family.type, hcontent]
    rw [Coherent, hcontent] at hcoherent
    rw [htype, Block.recordsOf?]
    change (if ∀ sample ∈ family.block.samples, sample.IsComponentOf family.name then
      (Run.split (family.block.samples.filter (·.IsBucketOf family.name))).mapM
        (Run.record? family.name) else none) = _
    rw [if_pos (isComponentOf_of_mem_block hcontent), filter_isBucketOf_block hcontent,
      split_bucketSamples family hcoherent.1, List.mapM_map]
    simp only [Function.comp_def, record?_bucketSamples, records?, hcontent]

/-- A series whose changes lie on bounds with a bucket has a record. -/
theorem isSome_record?_series (family : Family) {series : Series}
    (hbounded : ∀ bucket ∈ BucketLine.changes 0 series.buckets, bucket.Bounded)
    (hfound : ∀ bucket ∈ BucketLine.changes 0 series.buckets, bucket.OctaveFound) :
    (series.record? family.name).isSome = true := by
  rw [← record?_bucketSamples, Run.isSome_record?_iff, changes_bucketSamples]
  intro sample hmem
  obtain ⟨bucket, hbucket, rfl⟩ := List.mem_map.mp hmem
  obtain ⟨bound, hvalue, hfinite, hone⟩ := hbounded bucket hbucket
  obtain ⟨hbelow, hpos⟩ := Binary64.sub_one_of_one_lt hfinite hone
  exact ⟨bound, (bound?_bucketSample family series bucket).trans hvalue,
    Bucket.isCounted_eq_true_iff.mpr ⟨hbelow, hpos, hfound bucket hbucket bound hvalue⟩⟩

/-- A family has its records if its series are coherent and all octaves are found. -/
theorem isSome_records? {family : Family} (hcoherent : family.Coherent)
    (hfound : family.OctavesFound) : family.records?.isSome = true := by
  rw [records?]
  cases hcontent : family.content with
  | scalar type readings => rfl
  | histogram members =>
    rw [Coherent, hcontent] at hcoherent
    rw [OctavesFound, hcontent] at hfound
    exact isSome_mapM_iff.mpr fun series hmem =>
      family.isSome_record?_series (hcoherent.2 series hmem) (hfound series hmem)

/-- The counts of a family are finite by what it is made of. -/
theorem finiteCounts_blocks (families : List Family) :
    Page.FiniteCounts ⟨[], families.map block⟩ {} := by
  intro member hmember htype sample hmem hbucket
  obtain ⟨family, -, rfl⟩ := List.mem_map.mp hmember
  cases hcontent : family.content with
  | scalar type readings =>
    simp only [block, Family.type, hcontent] at htype
    cases type <;> cases htype
  | histogram members =>
    rw [Block.passing, filter_accepts_all] at hmem
    have hfiltered : sample ∈ family.block.samples.filter (·.IsBucketOf family.name) :=
      List.mem_filter.mpr ⟨hmem, decide_eq_true hbucket⟩
    rw [filter_isBucketOf_block hcontent] at hfiltered
    obtain ⟨series, -, hsample⟩ := List.mem_flatMap.mp hfiltered
    obtain ⟨bucket, -, rfl⟩ := List.mem_map.mp hsample
    exact bucket.finite

end Family

end ExporterAudit
