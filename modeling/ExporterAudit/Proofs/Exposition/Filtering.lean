import ExporterAudit.Proofs.Exposition.Components
import ExporterAudit.Proofs.Labels.Key

/-!
Reading with a filter. A sample that the filter does not accept leaves the reader as it is, whatever
stands around it, so a filtered page reads like the page without the lines of those samples.
-/

namespace ExporterAudit

/-- Whether a line is a sample that the filter does not accept. -/
def SampleFilter.rejects (filter : SampleFilter) (raw : Text) : Bool :=
  match Line.read raw with
  | .ok (.sample sample) => !filter.accepts sample
  | _ => false

/-- A sample is accepted if its name begins as asked and its labels are those asked for, in any
order. -/
theorem SampleFilter.accepts_iff {filter : SampleFilter} {sample : Sample} :
    filter.accepts sample = true ↔
      (∀ beginning, filter.name = some beginning → Text.startsWith sample.name beginning = true) ∧
      ∀ labels, filter.labels = some labels → sample.labels.entries.Perm labels.entries := by
  simp only [← Labels.same_iff_perm]
  rw [accepts, Bool.and_eq_true, Option.all_eq_true, Option.all_eq_true]

namespace Exposition

theorem step_of_rejects {filter : SampleFilter} {raw : Text} (hrejects : filter.rejects raw = true)
    (state : State) : step filter state raw = .ok { state } := by
  unfold SampleFilter.rejects at hrejects
  split at hrejects
  · next sample hread =>
    apply step_of_not_accepts hread
    simpa using hrejects
  · cases hrejects

/-- On every other line, malformed ones included, the filter makes no difference. -/
theorem step_of_not_rejects {filter : SampleFilter} {raw : Text}
    (hkept : filter.rejects raw = false) (state : State) :
    step filter state raw = step {} state raw := by
  unfold SampleFilter.rejects at hkept
  cases hread : Line.read raw with
  | error failure => rw [step, step, hread]; rfl
  | ok line =>
    rw [step_of_read hread, step_of_read hread]
    cases line with
    | blank | comment | help | type => rfl
    | sample sample =>
      have haccepts : filter.accepts sample = true := by simpa [hread] using hkept
      rw [advance, advance, if_pos haccepts]
      rfl

/-- Filtering while reading is reading what was filtered. -/
theorem readFrom_filter (filter : SampleFilter) (state : State) (lines : List Text) :
    readFrom filter state lines =
      readFrom {} state (lines.filter fun raw => !filter.rejects raw) := by
  -- The two runs are in the same state all the way; only the rejected lines are one run's own.
  induction lines generalizing state with
  | nil => rfl
  | cons raw rest ih =>
    by_cases hrejects : filter.rejects raw = true
    · rw [readFrom, step_of_rejects hrejects, List.filter_cons_of_neg (by simpa using hrejects)]
      exact ih state
    · have hkept : filter.rejects raw = false := Bool.eq_false_iff.mpr hrejects
      rw [readFrom, step_of_not_rejects hkept, List.filter_cons_of_pos (by simpa using hkept), readFrom]
      cases step {} state raw with
      | error failure => rfl
      | ok transition => simp only [ih]

/-- Every number that is emitted is the record of an accepted sample among the lines. -/
theorem scalar_of_mem_readFrom {filter : SampleFilter} {state : State} {lines : List Text}
    {record : Record} (hmem : record ∈ (readFrom filter state lines).records) {value : Binary64}
    (hvalue : record.value = .scalar value) :
    ∃ raw ∈ lines, ∃ sample, Line.read raw = .ok (.sample sample) ∧
      filter.accepts sample = true ∧ record = sample.toRecord := by
  induction lines generalizing state with
  | nil =>
    rw [readFrom] at hmem
    cases hflush : flush state with
    | error failure =>
      rw [hflush] at hmem
      cases hmem
    | ok emitted =>
      rw [hflush] at hmem
      obtain ⟨_, _, counts, -, rfl⟩ := exists_histogram_of_mem_flush hflush hmem
      cases hvalue
  | cons raw rest ih =>
    rw [readFrom] at hmem
    cases hstep : step filter state raw with
    | error failure =>
      rw [hstep] at hmem
      cases hmem
    | ok transition =>
      rw [hstep] at hmem
      rcases List.mem_append.mp hmem with hemitted | hlater
      · exact ⟨raw, List.mem_cons_self, scalar_of_mem_emitted hstep hemitted hvalue⟩
      · obtain ⟨found, hfound, hsample⟩ := ih hlater
        exact ⟨found, List.mem_cons_of_mem _ hfound, hsample⟩

/-- Filtering is deleting lines. Reading with a filter has the outcome of reading, without a filter,
the lines that are left when the samples that the filter does not accept are taken out; all other
lines stay, also those that make the reader fail. Each number that is emitted passes the filter
itself. A rejected sample leaves every state as it is, with nothing emitted and no failure. -/
theorem filtering_deletes_lines (filter : SampleFilter) (lines : List Text) :
    read lines filter = read (lines.filter fun raw => !filter.rejects raw) {} ∧
    (∀ record ∈ (read lines filter).records, ∀ value, record.value = .scalar value →
      (∀ beginning, filter.name = some beginning → Text.startsWith record.name beginning = true) ∧
      ∀ labels, filter.labels = some labels → record.labels.entries.Perm labels.entries) ∧
    ∀ raw, filter.rejects raw = true → ∀ state,
      step filter state raw = .ok { state, emitted := [] } := by
  refine ⟨readFrom_filter filter .initial lines, ?_, fun raw => step_of_rejects⟩
  intro record hmem value hvalue
  obtain ⟨_, -, sample, -, haccepts, rfl⟩ := scalar_of_mem_readFrom hmem hvalue
  exact SampleFilter.accepts_iff.mp haccepts

end Exposition

end ExporterAudit
