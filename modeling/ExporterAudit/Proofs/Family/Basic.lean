import ExporterAudit.Exposition
import ExporterAudit.Proofs.Bucket.Search
import ExporterAudit.Proofs.Line.Written

/-!
Metric families as an exporter holds them, the page that it writes for them and the records that
it means by them.
-/

namespace ExporterAudit

/-- A number with its labels. -/
structure Reading where
  labels : Labels
  writable : LabelBlock.Writable labels
  token : Token

/-- The reading as a sample of a name. -/
def Reading.under (reading : Reading) (name : Text) (named : Line.IsName name) : WrittenSample :=
  ⟨name, reading.labels, reading.token, named, reading.writable⟩

/-- A bucket of a series: its upper bound as it is written, and the count of all observations up
to it. -/
structure BucketLine where
  bound : Text
  count : Token
  finite : count.value.isFinite = true

namespace BucketLine

/-- The buckets whose count differs from the one before. -/
def changes : (previous : Binary64) → List BucketLine → List BucketLine
  | _, [] => []
  | previous, bucket :: rest =>
    if bucket.count.value.equals previous then
      changes bucket.count.value rest
    else
      bucket :: changes bucket.count.value rest

def toBucket? (bucket : BucketLine) : Option CumulativeBucket :=
  (Line.value? bucket.bound).map fun bound => { bound, count := bucket.count.value }

/-- A bucket whose bound leaves whole numbers below it. -/
def Bounded (bucket : BucketLine) : Prop :=
  ∃ bound, Line.value? bucket.bound = some bound ∧ bound.isFinite = true ∧
    Binary64.lt 1 bound = true

instance (bucket : BucketLine) : Decidable bucket.Bounded :=
  decidable_of_iff ((Line.value? bucket.bound).any fun bound => bound.isFinite && Binary64.lt 1 bound)
    (by simp [Bounded, Option.any_eq_true])

/-- A bucket whose observations lie before the end of the search for octaves. -/
def OctaveFound (bucket : BucketLine) : Prop :=
  ∀ bound ∈ Line.value? bucket.bound, Binary64.lt (bound - 1) Bucket.searchEnd = true

instance (bucket : BucketLine) : Decidable bucket.OctaveFound :=
  inferInstanceAs (Decidable (∀ bound ∈ Line.value? bucket.bound, _))

end BucketLine

/-- A total of a series. -/
inductive Total where
  | sum
  | count

def Total.suffix : Total → Text
  | .sum => "_sum"
  | .count => "_count"

/-- A series of a histogram: its labels, its buckets and the totals reported with them. -/
structure Series where
  labels : Labels
  writable : LabelBlock.Writable labels
  unbounded : Exposition.boundLabel ∉ labels.entries.map Prod.fst
  buckets : List BucketLine
  nonempty : buckets ≠ []
  totals : List (Total × Reading)

namespace Series

/-- The labels of a bucket: those of the series, and its bound. -/
def bucketLabels (series : Series) (bound : Text) : Labels where
  entries := series.labels.entries ++ [(Exposition.boundLabel, bound)]
  distinct := by
    rw [List.map_append, List.nodup_append]
    refine ⟨series.labels.distinct, by simp, fun name hname other hother heq => ?_⟩
    rw [List.map_singleton, List.mem_singleton] at hother
    rw [heq, hother] at hname
    exact series.unbounded hname

/-- The bound of a bucket is written among the labels like any other value. -/
theorem writable_bucketLabels (series : Series) (bound : Text) :
    LabelBlock.Writable (series.bucketLabels bound) := by
  intro entry hmem
  rcases List.mem_append.mp hmem with hmem | hmem
  · exact series.writable entry hmem
  · rw [List.mem_singleton.mp hmem]
    change LabelBlock.IsName Exposition.boundLabel ∧ Exposition.boundLabel ≠ Labels.reservedName
    decide

/-- The record of a series: a histogram rebuilt from the buckets that change its count. -/
def record? (name : Text) (series : Series) : Option Record :=
  ((BucketLine.changes 0 series.buckets).mapM BucketLine.toBucket?).bind fun buckets =>
    (Record.ofCumulative name buckets).toOption

end Series

/-- The types of families whose samples stand for themselves. -/
inductive ScalarType where
  | counter
  | gauge
  | untyped

def ScalarType.toMetricType : ScalarType → MetricType
  | .counter => .counter
  | .gauge => .gauge
  | .untyped => .untyped

/-- What a family reports. -/
inductive FamilyContent where
  | scalar (type : ScalarType) (readings : List Reading)
  | histogram (series : List Series)

/-- A metric family, with a help text that fits on a line or none. -/
structure Family where
  name : Text
  named : Line.IsName name
  help : Option Text
  helpFits : ∀ text ∈ help, '\n' ∉ text
  content : FamilyContent

/-- A name stays one whatever characters of names follow it. -/
theorem Line.IsName.append {name suffix : Text} (hname : Line.IsName name)
    (hsuffix : ∀ c ∈ suffix, Line.isNameChar c = true) : Line.IsName (name ++ suffix) := by
  obtain ⟨c, hfirst, hstart⟩ := hname.starts
  refine ⟨⟨c, ?_, hstart⟩, fun d hmem => ?_⟩
  · rw [List.head?_append, hfirst]
    rfl
  · exact (List.mem_append.mp hmem).elim (hname.continues d) (hsuffix d)

namespace Family

def type (family : Family) : MetricType :=
  match family.content with
  | .scalar type _ => type.toMetricType
  | .histogram _ => .histogram

/-- Bucket lines are named by the family and a suffix of characters of names. -/
theorem isName_bucket (family : Family) : Line.IsName (family.name ++ "_bucket") :=
  family.named.append (List.all_eq_true.mp (by decide))

/-- The lines of totals are named by the family and their own suffix. -/
theorem isName_total (family : Family) (total : Total) :
    Line.IsName (family.name ++ total.suffix) :=
  family.named.append (List.all_eq_true.mp (by cases total <;> decide))

def bucketSamples (family : Family) (series : Series) : List WrittenSample :=
  series.buckets.map fun bucket =>
    ⟨family.name ++ "_bucket", series.bucketLabels bucket.bound, bucket.count,
      family.isName_bucket, series.writable_bucketLabels bucket.bound⟩

def totalSamples (family : Family) (series : Series) : List WrittenSample :=
  series.totals.map fun (total, reading) => reading.under _ (family.isName_total total)

/-- The samples of a family, series by series. -/
def samples (family : Family) : List WrittenSample :=
  match family.content with
  | .scalar _ readings => readings.map (·.under _ family.named)
  | .histogram series =>
    series.flatMap fun series => family.bucketSamples series ++ family.totalSamples series

/-- The lines of a family: its help header if there is one, its type header and its samples. -/
def lines (bare : Bool) (family : Family) : List Text :=
  (family.help.map (Line.headerLine .help family.name)).toList ++
    Line.typeLine family.name family.type :: family.samples.map (·.line bare)

/-- A page of families, one line after the other. -/
def pageText (bare : Bool) (families : List Family) : Text :=
  Text.join "\n" (families.flatMap (lines bare))

/-- The records of a family: one for each reading, or one for each series. -/
def records? (family : Family) : Option (List Record) :=
  match family.content with
  | .scalar _ readings =>
    some (readings.map fun reading => .scalar family.name reading.token.value reading.labels)
  | .histogram series => series.mapM (Series.record? family.name)

/-- What keeps the series of a family apart and their observations countable. -/
def Coherent (family : Family) : Prop :=
  match family.content with
  | .scalar _ _ => True
  | .histogram series =>
    series.IsChain (fun first second => first.labels.key ≠ second.labels.key) ∧
      ∀ member ∈ series, ∀ bucket ∈ BucketLine.changes 0 member.buckets, bucket.Bounded

instance (family : Family) : Decidable family.Coherent := by
  unfold Coherent
  cases family.content <;> infer_instance

/-- The observations that are counted lie before the end of the search for octaves. -/
def OctavesFound (family : Family) : Prop :=
  match family.content with
  | .scalar _ _ => True
  | .histogram series =>
    ∀ member ∈ series, ∀ bucket ∈ BucketLine.changes 0 member.buckets, bucket.OctaveFound

instance (family : Family) : Decidable family.OctavesFound := by
  unfold OctavesFound
  cases family.content <;> infer_instance

end Family

end ExporterAudit
