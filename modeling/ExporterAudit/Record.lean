import ExporterAudit.BucketCounts
import ExporterAudit.Labels

/-!
Records: one logical metric each, a number with labels or a histogram. Comparison looks at values
only, so a histogram from cumulative counters can equal one from raw values.
-/

namespace ExporterAudit

/-- What a metric holds. -/
inductive Value where
  | scalar (value : Binary64)
  | histogram (buckets : BucketCounts)
deriving DecidableEq

namespace Value

/-- Numeric equality of numbers, equality of counts for histograms. -/
def same : Value → Value → Bool
  | .scalar a, .scalar b => a.equals b
  | .histogram a, .histogram b => a.same b
  | _, _ => false

def toText : Value → Text
  | .scalar value => value.toText
  | .histogram buckets => buckets.toText

end Value

/-- One logical metric. -/
structure Record where
  name : Text
  labels : Labels
  value : Value
deriving DecidableEq

/-- A bucket line: the inclusive upper bound, and the count of all observations up to it. -/
structure CumulativeBucket where
  bound : Binary64
  count : Binary64
deriving DecidableEq

namespace CumulativeBucket

/-- Each bucket's own observations, under the greatest value it can hold: bounds are exclusive
upper limits of whole numbers. -/
def occupancy : (last : Binary64) → List CumulativeBucket → List (Binary64 × Binary64)
  | _, [] => []
  | last, bucket :: rest => (bucket.bound - 1, bucket.count - last) :: occupancy bucket.count rest

end CumulativeBucket

namespace Record

def scalar (name : Text) (value : Binary64) (labels : Labels) : Record :=
  ⟨name, labels, .scalar value⟩

def histogram (name : Text) (buckets : BucketCounts) : Record :=
  ⟨name, .empty, .histogram buckets⟩

/-- The histogram that a series of cumulative buckets describes. -/
def ofCumulative (name : Text) (cumulative : List CumulativeBucket) : Except Failure Record := do
  let buckets ← BucketCounts.empty.addAll (CumulativeBucket.occupancy 0 cumulative)
  return histogram name buckets

/-- Equality of values; names and labels do not count. -/
def same (a b : Record) : Bool :=
  a.value.same b.value

/-- The list without the first record that equals the given one. -/
def removeSame? (record : Record) : List Record → Option (List Record)
  | [] => none
  | candidate :: rest =>
    if candidate.same record then some rest else (removeSame? record rest).map (candidate :: ·)

/-- Whether every expected record takes an equal actual record of its own and none is left. -/
def sameRecords (actual : List Record) : (expected : List Record) → Bool
  | [] => actual.isEmpty
  | record :: expected =>
    match removeSame? record actual with
    | some remaining => sameRecords remaining expected
    | none => false

def toText (record : Record) : Text :=
  record.name ++ "\x7b" ++ record.labels.toText ++ "\x7d " ++ record.value.toText

/-- The texts of records as a bracketed list. -/
def listText (records : List Record) : Text :=
  "[" ++ Text.join ", " (records.map toText) ++ "]"

end Record

end ExporterAudit
