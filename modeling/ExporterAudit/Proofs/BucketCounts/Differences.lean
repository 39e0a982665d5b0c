import ExporterAudit.Proofs.BucketCounts.Changes

/-!
How a list of numbers, each under a bound, changes on one bucket. The changes of sums add up to the
changes of both lists, although the lists repeat numbers in different places. Counts of observations are
not rounded on a bucket whose bounds follow one another, because their changes telescope there.
-/

namespace ExporterAudit.BucketCounts

open Binary64

/-- The changes of the numbers on a bucket. A number that repeats the one before it has none. -/
def differencesOn (bucket : Binary64) :
    (previous : Int) → List Binary64 → (numbers : List Int) → List Int
  | previous, bound :: bounds, number :: numbers =>
    if key? (bound - 1) = some bucket ∧ number ≠ previous then
      (number - previous) :: differencesOn bucket number bounds numbers
    else
      differencesOn bucket number bounds numbers
  | _, _, _ => []

@[simp]
theorem differencesOn_nil_bounds (bucket : Binary64) (previous : Int) (numbers : List Int) :
    differencesOn bucket previous [] numbers = [] := by
  simp [differencesOn]

@[simp]
theorem differencesOn_nil_numbers (bucket : Binary64) (previous : Int) (bounds : List Binary64) :
    differencesOn bucket previous bounds [] = [] := by
  cases bounds <;> rfl

/-- A bound of another bucket adds no difference but moves on to its number. -/
theorem differencesOn_cons_of_elsewhere {bucket bound : Binary64}
    (helsewhere : key? (bound - 1) ≠ some bucket) (previous : Int) (bounds : List Binary64)
    (number : Int) (numbers : List Int) :
    differencesOn bucket previous (bound :: bounds) (number :: numbers) =
      differencesOn bucket number bounds numbers :=
  if_neg fun h => helsewhere h.1

/-! ### Sums of counts -/

/-- A repeated number adds no difference, and would add zero to the sum if it did. -/
theorem sum_differencesOn_cons (bucket bound : Binary64) (bounds : List Binary64)
    (previous number : Int) (numbers : List Int) :
    (differencesOn bucket previous (bound :: bounds) (number :: numbers)).sum =
      (if key? (bound - 1) = some bucket then number - previous else 0) +
        (differencesOn bucket number bounds numbers).sum := by
  rw [differencesOn]
  by_cases hrepeats : number = previous
  · simp [hrepeats]
  · by_cases hbucket : key? (bound - 1) = some bucket <;> simp [hrepeats, hbucket]

/-- The changes of sums add up to the changes of both, whichever lines repeat a number. -/
theorem sum_differencesOn_zipWith (bucket : Binary64) {bounds : List Binary64}
    {first second : List Int} (hfirst : first.length = bounds.length)
    (hsecond : second.length = bounds.length) (previous before : Int) :
    (differencesOn bucket (previous + before) bounds (List.zipWith (· + ·) first second)).sum =
      (differencesOn bucket previous bounds first).sum +
        (differencesOn bucket before bounds second).sum := by
  induction bounds generalizing first second previous before with
  | nil => simp
  | cons bound bounds ih =>
    obtain ⟨number, first, rfl⟩ := List.exists_cons_of_length_eq_add_one hfirst
    obtain ⟨other, second, rfl⟩ := List.exists_cons_of_length_eq_add_one hsecond
    have hlater := ih (by simpa using hfirst) (by simpa using hsecond) number other
    rw [List.zipWith_cons_cons, sum_differencesOn_cons, sum_differencesOn_cons, sum_differencesOn_cons,
      hlater]
    split <;> omega

/-- Sums of numbers that do not fall do not fall either. -/
theorem isChain_zipWith_add {first second : List Int} {previous before : Int}
    (hfirst : (previous :: first).IsChain (· ≤ ·)) (hsecond : (before :: second).IsChain (· ≤ ·)) :
    ((previous + before) :: List.zipWith (· + ·) first second).IsChain (· ≤ ·) := by
  induction first generalizing second previous before with
  | nil => simp
  | cons number first ih =>
    cases second with
    | nil => simp
    | cons other second =>
      obtain ⟨hle, hfirst⟩ := List.isChain_cons_cons.mp hfirst
      obtain ⟨hle', hsecond⟩ := List.isChain_cons_cons.mp hsecond
      exact List.isChain_cons_cons.mpr ⟨Int.add_le_add hle hle', ih hfirst hsecond⟩

/-! ### Numbers that are not rounded -/

/-- The numbers are counts of observations that the format holds. -/
def Tallied (numbers : List Int) : Prop :=
  ∀ number ∈ numbers, 0 ≤ number ∧ number < 2 ^ 53

instance (numbers : List Int) : Decidable (Tallied numbers) :=
  inferInstanceAs (Decidable (∀ number ∈ numbers, _))

/-- Counts of observations do not exceed their sums. -/
theorem tallied_of_zipWith {first second : List Int} (hlength : first.length = second.length)
    (hfirst : ∀ number ∈ first, 0 ≤ number) (hsecond : ∀ number ∈ second, 0 ≤ number)
    (hsmall : ∀ sum ∈ List.zipWith (· + ·) first second, sum < 2 ^ 53) :
    Tallied first ∧ Tallied second ∧ Tallied (List.zipWith (· + ·) first second) := by
  induction first generalizing second with
  | nil =>
    obtain rfl := List.length_eq_zero_iff.mp hlength.symm
    simp [Tallied]
  | cons number first ih =>
    obtain ⟨other, second, rfl⟩ := List.exists_cons_of_length_eq_add_one hlength.symm
    obtain ⟨hnumber, hfirst⟩ := List.forall_mem_cons.mp hfirst
    obtain ⟨hother, hsecond⟩ := List.forall_mem_cons.mp hsecond
    rw [List.zipWith_cons_cons] at hsmall ⊢
    obtain ⟨hsum, hsmall⟩ := List.forall_mem_cons.mp hsmall
    obtain ⟨hfirst, hsecond, hsums⟩ := ih (by simpa using hlength) hfirst hsecond hsmall
    refine ⟨List.forall_mem_cons.mpr ⟨⟨hnumber, ?_⟩, hfirst⟩,
      List.forall_mem_cons.mpr ⟨⟨hother, ?_⟩, hsecond⟩,
      List.forall_mem_cons.mpr ⟨⟨Int.add_nonneg hnumber hother, hsum⟩, hsums⟩⟩ <;> omega

/-- The bounds of a bucket follow one another. -/
def Together (bucket : Binary64) (bounds : List Binary64) : Prop :=
  ∃ before inside after, bounds = before ++ inside ++ after ∧
    (∀ bound ∈ inside, key? (bound - 1) = some bucket) ∧
    ∀ bound ∈ before ++ after, key? (bound - 1) ≠ some bucket

/-- A change leads from one number to another. -/
theorem exists_of_mem_differencesOn {bucket : Binary64} {bounds : List Binary64} {previous : Int}
    {numbers : List Int} :
    ∀ change ∈ differencesOn bucket previous bounds numbers,
      ∃ later ∈ numbers, ∃ earlier ∈ previous :: numbers, change = later - earlier := by
  induction bounds generalizing previous numbers with
  | nil => simp
  | cons bound bounds ih =>
    cases numbers with
    | nil => simp
    | cons number numbers =>
      intro change hchange
      have hcases : change = number - previous ∨ change ∈ differencesOn bucket number bounds numbers := by
        rw [differencesOn] at hchange
        split at hchange
        · exact List.mem_cons.mp hchange
        · exact .inr hchange
      rcases hcases with rfl | hlater
      · exact ⟨number, List.mem_cons_self, previous, List.mem_cons_self, rfl⟩
      · obtain ⟨later, hmem, earlier, hearlier, rfl⟩ := ih change hlater
        exact ⟨later, List.mem_cons_of_mem _ hmem, earlier, List.mem_cons_of_mem _ hearlier, rfl⟩

/-- Without a bound on the bucket nothing changes there. -/
theorem differencesOn_eq_nil {bucket : Binary64} {bounds : List Binary64}
    (helsewhere : ∀ bound ∈ bounds, key? (bound - 1) ≠ some bucket) (previous : Int)
    (numbers : List Int) : differencesOn bucket previous bounds numbers = [] := by
  induction bounds generalizing previous numbers with
  | nil => simp
  | cons bound bounds ih =>
    obtain ⟨hbound, helsewhere⟩ := List.forall_mem_cons.mp helsewhere
    cases numbers with
    | nil => simp
    | cons number numbers => rw [differencesOn_cons_of_elsewhere hbound, ih helsewhere]

/-- On bounds that follow one another the changes telescope. -/
theorem exists_sum_of_prefix_inside {bucket : Binary64} {inside after : List Binary64}
    (hinside : ∀ bound ∈ inside, key? (bound - 1) = some bucket)
    (hafter : ∀ bound ∈ after, key? (bound - 1) ≠ some bucket) {previous : Int} {numbers : List Int}
    {first : List Int} (hfirst : first <+: differencesOn bucket previous (inside ++ after) numbers) :
    ∃ later ∈ previous :: numbers, first.sum = later - previous := by
  induction inside generalizing previous numbers first with
  | nil =>
    rw [List.nil_append, differencesOn_eq_nil hafter, List.prefix_nil] at hfirst
    exact ⟨previous, List.mem_cons_self, by simp [hfirst]⟩
  | cons bound inside ih =>
    obtain ⟨hbound, hinside⟩ := List.forall_mem_cons.mp hinside
    cases numbers with
    | nil =>
      rw [differencesOn_nil_numbers, List.prefix_nil] at hfirst
      exact ⟨previous, List.mem_cons_self, by simp [hfirst]⟩
    | cons number numbers =>
      rw [List.cons_append, differencesOn] at hfirst
      split at hfirst
      · cases first with
        | nil => exact ⟨previous, List.mem_cons_self, by simp⟩
        | cons change first =>
          obtain ⟨rfl, hrest⟩ := List.cons_prefix_cons.mp hfirst
          obtain ⟨later, hlater, hsum⟩ := ih hinside hrest
          refine ⟨later, List.mem_cons_of_mem _ hlater, ?_⟩
          rw [List.sum_cons, hsum]
          omega
      · next hsame =>
        obtain rfl : number = previous := by
          by_contra hne
          exact hsame ⟨hbound, hne⟩
        obtain ⟨later, hlater, hsum⟩ := ih hinside hfirst
        exact ⟨later, List.mem_cons_of_mem _ hlater, hsum⟩

/-- The differences on a bucket whose bounds follow one another telescope, so each of their running
sums is the difference of two of the numbers. -/
theorem Together.exists_sum_of_prefix {bucket : Binary64} {bounds : List Binary64}
    (htogether : Together bucket bounds) {previous : Int} {numbers first : List Int}
    (hfirst : first <+: differencesOn bucket previous bounds numbers) :
    ∃ later ∈ previous :: numbers, ∃ earlier ∈ previous :: numbers, first.sum = later - earlier := by
  obtain ⟨before, inside, after, rfl, hinside, houtside⟩ := htogether
  obtain ⟨hbefore, hafter⟩ := List.forall_mem_append.mp houtside
  induction before generalizing previous numbers with
  | nil =>
    obtain ⟨later, hlater, hsum⟩ := exists_sum_of_prefix_inside hinside hafter hfirst
    exact ⟨later, hlater, previous, List.mem_cons_self, hsum⟩
  | cons bound before ih =>
    obtain ⟨hbound, hbefore⟩ := List.forall_mem_cons.mp hbefore
    cases numbers with
    | nil =>
      rw [differencesOn_nil_numbers, List.prefix_nil] at hfirst
      exact ⟨previous, List.mem_cons_self, previous, List.mem_cons_self, by simp [hfirst]⟩
    | cons number numbers =>
      rw [List.cons_append, List.cons_append, differencesOn_cons_of_elsewhere hbound] at hfirst
      obtain ⟨later, hlater, earlier, hearlier, hsum⟩ :=
        ih hfirst (List.forall_mem_append.mpr ⟨hbefore, hafter⟩) hbefore
      exact ⟨later, List.mem_cons_of_mem _ hlater, earlier, List.mem_cons_of_mem _ hearlier, hsum⟩

/-- Counts of observations are not rounded on bounds that follow one another. -/
theorem Together.unrounded {bucket : Binary64} {bounds : List Binary64}
    (htogether : Together bucket bounds) {numbers : List Int} (htallied : Tallied numbers) :
    Unrounded (differencesOn bucket 0 bounds numbers) := by
  have hrange : ∀ number ∈ 0 :: numbers, 0 ≤ number ∧ number < 2 ^ 53 :=
    List.forall_mem_cons.mpr ⟨by decide, htallied⟩
  refine ⟨fun change hchange => ?_, fun first hfirst => ?_⟩
  · obtain ⟨later, hlater, earlier, hearlier, rfl⟩ := exists_of_mem_differencesOn change hchange
    have hlaterRange := htallied later hlater
    have hearlierRange := hrange earlier hearlier
    exact representable_of_natAbs_lt (by omega)
  · obtain ⟨later, hlater, earlier, hearlier, hsum⟩ := htogether.exists_sum_of_prefix hfirst
    have hlaterRange := hrange later hlater
    have hearlierRange := hrange earlier hearlier
    exact representable_of_natAbs_lt (by omega)

end ExporterAudit.BucketCounts
