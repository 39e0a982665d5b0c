/-!
What it takes for a computation that may fail to succeed or to fail, one lemma for each way to build
one.
-/

namespace ExporterAudit

variable {ε α β : Type}

theorem bind_eq_ok_iff {result : Except ε α} {next : α → Except ε β} {value : β} :
    result >>= next = .ok value ↔ ∃ first, result = .ok first ∧ next first = .ok value := by
  cases result <;> simp [bind, Except.bind]

/-- Two steps fail as the first one of them that fails does. -/
theorem bind_eq_error_iff {result : Except ε α} {next : α → Except ε β} {failure : ε} :
    result >>= next = .error failure ↔
      result = .error failure ∨ ∃ first, result = .ok first ∧ next first = .error failure := by
  cases result <;> simp [bind, Except.bind]

theorem map_eq_ok_iff {result : Except ε α} {f : α → β} {value : β} :
    result.map f = .ok value ↔ ∃ first, result = .ok first ∧ f first = value := by
  cases result <;> simp [Except.map]

theorem toOption_eq_some_iff {result : Except ε α} {value : α} :
    result.toOption = some value ↔ result = .ok value := by
  cases result <;> simp [Except.toOption]

/-- A search that may fail on what it finds says what it has found. -/
theorem sequence_inj {first second : Option (Except ε α)} :
    first.sequence = second.sequence ↔ first = second := by
  refine ⟨fun hsame => ?_, fun hsame => hsame ▸ rfl⟩
  rcases first with _ | _ | _ <;> rcases second with _ | _ | _ <;> cases hsame <;> rfl

end ExporterAudit
