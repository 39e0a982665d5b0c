import ExporterAudit.Bucket

/-!
Bucket counts: how many observations each bucket holds, in the order in which the buckets were
first met. The two zeros are one bucket, which goes by the positive one, and not-a-number is a
bucket of its own.
-/

namespace ExporterAudit

/-- Counts by bucket. -/
structure BucketCounts where
  entries : List (Binary64 × Binary64)
  distinct : (entries.map Prod.fst).Nodup
  positiveZero : .zero true ∉ entries.map Prod.fst
deriving DecidableEq

namespace BucketCounts

def empty : BucketCounts := ⟨[], .nil, List.not_mem_nil⟩

instance : Inhabited BucketCounts := ⟨empty⟩

/-- The name of a bucket: the two zeros are one. -/
def key (bucket : Binary64) : Binary64 :=
  if bucket = .zero true then .zero false else bucket

theorem key_ne_negativeZero (bucket : Binary64) : key bucket ≠ .zero true := by
  unfold key
  split
  · intro h
    injection h with hsign
    cases hsign
  · assumption

/-- The count of a bucket. -/
def get? (counts : BucketCounts) (bucket : Binary64) : Option Binary64 :=
  counts.entries.lookup (key bucket)

/-- Gives a named bucket a count, in place or at the end. -/
def put (bucket count : Binary64) : List (Binary64 × Binary64) → List (Binary64 × Binary64)
  | [] => [(bucket, count)]
  | entry :: rest =>
    if entry.1 = bucket then (bucket, count) :: rest else entry :: put bucket count rest

/-- The buckets after a count is put down: those of before and the one counted. -/
theorem mem_map_fst_put {bucket count b : Binary64} {entries : List (Binary64 × Binary64)} :
    b ∈ (put bucket count entries).map Prod.fst ↔ b = bucket ∨ b ∈ entries.map Prod.fst := by
  induction entries with
  | nil => simp [put]
  | cons entry rest ih =>
    unfold put
    split
    · next h => simp [h]
    · simp only [List.map_cons, List.mem_cons, ih]
      grind

/-- No bucket is listed twice, since a bucket that is met again keeps its place. -/
theorem nodup_put {entries : List (Binary64 × Binary64)} (h : (entries.map Prod.fst).Nodup)
    (bucket count : Binary64) : ((put bucket count entries).map Prod.fst).Nodup := by
  induction entries with
  | nil => simp [put]
  | cons entry rest ih =>
    rw [List.map_cons, List.nodup_cons] at h
    unfold put
    split
    · next heq => simpa [← heq] using h
    · next hne =>
      rw [List.map_cons, List.nodup_cons, mem_map_fst_put]
      exact ⟨fun hor => hor.elim hne h.1, ih h.2⟩

/-- Gives a bucket a count, in place if it has one already. -/
def insert (counts : BucketCounts) (bucket count : Binary64) : BucketCounts :=
  { entries := put (key bucket) count counts.entries
    distinct := nodup_put counts.distinct _ _
    positiveZero := by
      rw [mem_map_fst_put, not_or]
      exact ⟨(key_ne_negativeZero bucket).symm, counts.positiveZero⟩ }

/-- Adds to the count of a bucket; a missing one counts as zero. -/
def add (counts : BucketCounts) (bucket amount : Binary64) : BucketCounts :=
  counts.insert bucket ((counts.get? bucket).getD 0 + amount)

/-- The counts that a list of pairs leaves. -/
def ofPairs (pairs : List (Binary64 × Binary64)) : BucketCounts :=
  pairs.foldl (fun counts (bucket, count) => counts.insert bucket count) empty

/-- Adds amounts one after another, each to the bucket of a value. -/
def addAll (counts : BucketCounts) :
    (amounts : List (Binary64 × Binary64)) → Except Failure BucketCounts
  | [] => .ok counts
  | (value, amount) :: rest => do
    let bucket ← Bucket.ofValue value
    addAll (counts.add bucket amount) rest

/-- The histogram of raw values, one observation each. -/
def ofValues (values : List Binary64) : Except Failure BucketCounts :=
  addAll empty (values.map fun value => (value, 1))

/-- The buckets of `a` have the same counts in `b`, and there are no others. -/
def same (a b : BucketCounts) : Bool :=
  a.entries.length == b.entries.length &&
    a.entries.all fun (bucket, count) =>
      match b.get? bucket with
      | some other => other.equals count
      | none => false

def toText (counts : BucketCounts) : Text :=
  let entryText (entry : Binary64 × Binary64) : Text :=
    entry.1.toText ++ ": " ++ entry.2.toText
  "\x7b" ++ Text.join ", " (counts.entries.map entryText) ++ "\x7d"

end BucketCounts

end ExporterAudit
