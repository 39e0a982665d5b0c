import ExporterAudit.Session
import Mathlib.Data.List.Forall2

/-!
What sessions do and how they end, one lemma for each way to build one. Actions are only ever added
behind those already done, so what holds of the actions of all parts holds of the whole.
-/

namespace ExporterAudit.Session

variable {α β γ : Type}

@[simp]
theorem actions_pure (value : α) : (pure value : Session α).actions = [] := rfl

@[simp]
theorem outcome_pure (value : α) : (pure value : Session α).outcome = .ok value := rfl

/-- What follows a value adds its actions behind those already done. -/
@[simp]
theorem mk_ok_bind (actions : List Action) (value : α) (next : α → Session β) :
    (⟨actions, .ok value⟩ : Session α) >>= next =
      ⟨actions ++ (next value).actions, (next value).outcome⟩ := rfl

@[simp]
theorem mk_error_bind (actions : List Action) (failure : Failure) (next : α → Session β) :
    (⟨actions, .error failure⟩ : Session α) >>= next = ⟨actions, .error failure⟩ := rfl

instance : LawfulMonad Session := LawfulMonad.mk' Session
  (fun session => by
    obtain ⟨actions, failure | value⟩ := session
    · rfl
    · exact congrArg (Session.mk · _) (List.append_nil actions))
  (fun _ _ => rfl)
  (fun session next last => by
    obtain ⟨actions, failure | value⟩ := session
    · rfl
    · rw [mk_ok_bind, mk_ok_bind]
      obtain ⟨others, failure | second⟩ := next value <;> simp)

@[simp]
theorem actions_act (action : Action) : (act action).actions = [action] := rfl

@[simp]
theorem actions_ofExcept (outcome : Except Failure α) : (ofExcept outcome).actions = [] := rfl

/-- A first action, and then the rest. -/
theorem act_bind (action : Action) (next : Unit → Session α) :
    act action >>= next = ⟨action :: (next ()).actions, (next ()).outcome⟩ := rfl

/-- Parts that do not fail are done one after another, each with its own result. -/
theorem mapM_of_ok {items : List α} {results : List β} {part : α → Session β}
    (hparts : List.Forall₂ (fun item result => (part item).outcome = .ok result) items results) :
    items.mapM part = ⟨items.flatMap fun item => (part item).actions, .ok results⟩ := by
  induction hparts with
  | nil => rfl
  | @cons item result items results hpart _ ih =>
    have hsession : part item = ⟨(part item).actions, .ok result⟩ := hpart ▸ rfl
    rw [List.mapM_cons, hsession, mk_ok_bind, ih, mk_ok_bind]
    simp

/-- Parts are done one after another up to the first that fails, and no further. -/
theorem mapM_of_error {before later : List α} {item : α} {results : List β} {part : α → Session β}
    {failure : Failure}
    (hparts : List.Forall₂ (fun item result => (part item).outcome = .ok result) before results)
    (hfails : (part item).outcome = .error failure) :
    (before ++ item :: later).mapM part =
      ⟨(before ++ [item]).flatMap fun item => (part item).actions, .error failure⟩ := by
  have hitem : part item = ⟨(part item).actions, .error failure⟩ := hfails ▸ rfl
  rw [List.mapM_append, mapM_of_ok hparts, mk_ok_bind, List.mapM_cons, hitem, mk_error_bind,
    mk_error_bind]
  simp

/-- What does nothing to the outside leaves no trace behind what came before it. -/
theorem actions_bind_of_nil {session : Session α} {next : α → Session β}
    (hnext : ∀ value, (next value).actions = []) : (session >>= next).actions = session.actions := by
  obtain ⟨actions, failure | value⟩ := session
  · rfl
  · rw [mk_ok_bind, hnext, List.append_nil]

@[simp]
theorem actions_map (f : α → β) (session : Session α) :
    (f <$> session).actions = session.actions := by
  rw [map_eq_pure_bind, actions_bind_of_nil fun _ => rfl]

/-- A session goes on for ever where a search in it does. -/
theorem isEndless_eq_true_iff {session : Session α} :
    session.isEndless = true ↔ ∃ value, session.outcome = .error (.endless value) := by
  obtain ⟨actions, failure | value⟩ := session
  · simp [isEndless, Failure.isEndless_eq_true_iff]
  · simp [isEndless]

/-- Two steps succeed together if the first one does and then the second one on its value. -/
theorem outcome_bind_eq_ok_iff {session : Session α} {next : α → Session β} {value : β} :
    (session >>= next).outcome = .ok value ↔
      ∃ first, session.outcome = .ok first ∧ (next first).outcome = .ok value := by
  obtain ⟨actions, failure | first⟩ := session <;> simp

theorem map_mk_ok (f : α → β) (actions : List Action) (value : α) :
    f <$> (⟨actions, .ok value⟩ : Session α) = ⟨actions, .ok (f value)⟩ := by
  rw [map_eq_pure_bind, mk_ok_bind, actions_pure, outcome_pure, List.append_nil]

theorem outcome_map_eq_ok_iff {f : α → β} {session : Session α} {value : β} :
    (f <$> session).outcome = .ok value ↔ ∃ first, session.outcome = .ok first ∧ f first = value := by
  simp only [map_eq_pure_bind, outcome_bind_eq_ok_iff, outcome_pure, Except.ok.injEq]

/-- What is done with a value does not decide whether there is one. -/
theorem exists_outcome_map_iff {f : α → β} {session : Session α} :
    (∃ value, (f <$> session).outcome = .ok value) ↔ ∃ first, session.outcome = .ok first := by
  simp only [outcome_map_eq_ok_iff]
  rw [exists_comm]
  simp only [exists_and_left, exists_eq', and_true]

@[simp]
theorem isEndless_map (f : α → β) (session : Session α) :
    (f <$> session).isEndless = session.isEndless := by
  obtain ⟨actions, failure | value⟩ := session <;> rfl

/-- A session goes on for ever where its first part does, or else where the rest does. -/
theorem isEndless_bind_iff {session : Session α} {next : α → Session β} :
    (session >>= next).isEndless = true ↔ session.isEndless = true ∨
      ∃ first, session.outcome = .ok first ∧ (next first).isEndless = true := by
  obtain ⟨actions, failure | first⟩ := session <;> simp [isEndless]

/-- A list is gone through to its end exactly if every item succeeds. -/
theorem outcome_mapM_eq_ok_iff {items : List α} {results : List β} {part : α → Session β} :
    (items.mapM part).outcome = .ok results ↔
      List.Forall₂ (fun item result => (part item).outcome = .ok result) items results := by
  induction items generalizing results with
  | nil => simp [eq_comm]
  | cons item items ih =>
    simp only [List.mapM_cons, outcome_bind_eq_ok_iff, outcome_pure, Except.ok.injEq, ih,
      List.forall₂_cons_left_iff]
    constructor
    · rintro ⟨first, hfirst, rest, hrest, rfl⟩
      exact ⟨first, rest, hfirst, hrest, rfl⟩
    · rintro ⟨first, rest, hfirst, hrest, rfl⟩
      exact ⟨first, hfirst, rest, hrest, rfl⟩

/-- Parts go on for ever where one of them does that all parts before it have come to. -/
theorem isEndless_mapM_iff {items : List α} {part : α → Session β} :
    (items.mapM part).isEndless = true ↔ ∃ before item later, items = before ++ item :: later ∧
      (∀ earlier ∈ before, ∃ result, (part earlier).outcome = .ok result) ∧
      (part item).isEndless = true := by
  induction items with
  | nil => simp [isEndless]
  | cons first rest ih =>
    rw [List.mapM_cons, isEndless_bind_iff]
    constructor
    · rintro (hendless | ⟨result, hfirst, hrest⟩)
      · exact ⟨[], first, rest, rfl, by simp, hendless⟩
      · rcases isEndless_bind_iff.mp hrest with hrest | ⟨_, -, hpure⟩
        · obtain ⟨before, item, later, rfl, hbefore, hendless⟩ := ih.mp hrest
          exact ⟨first :: before, item, later, rfl,
            List.forall_mem_cons.mpr ⟨⟨result, hfirst⟩, hbefore⟩, hendless⟩
        · cases hpure
    · rintro ⟨before, item, later, heq, hbefore, hendless⟩
      cases before with
      | nil =>
        obtain ⟨rfl, rfl⟩ := List.cons.inj heq
        exact .inl hendless
      | cons other others =>
        obtain ⟨rfl, rfl⟩ := List.cons.inj heq
        obtain ⟨⟨result, hfirst⟩, hothers⟩ := List.forall_mem_cons.mp hbefore
        exact .inr ⟨result, hfirst, isEndless_bind_iff.mpr
          (.inl (ih.mpr ⟨others, item, later, rfl, hothers, hendless⟩))⟩

/-- Printing lines does nothing else and does not fail. -/
theorem forM_print (lines : List Text) :
    lines.forM print = ⟨lines.map Action.print, .ok ()⟩ := by
  induction lines with
  | nil => rfl
  | cons line rest ih =>
    change act (.print line) >>= (fun _ => rest.forM print) = _
    rw [ih]
    rfl

/-! ### Sessions with actions of a kind -/

/-- Every action of a session satisfies a condition. -/
def Performs (allowed : Action → Prop) (session : Session α) : Prop :=
  ∀ action ∈ session.actions, allowed action

namespace Performs

variable {allowed : Action → Prop}

theorem pure (value : α) : Performs allowed (pure value : Session α) := by
  simp [Performs]

theorem act {action : Action} (hallowed : allowed action) : Performs allowed (act action) := by
  simpa [Performs] using hallowed

theorem ofExcept (outcome : Except Failure α) : Performs allowed (ofExcept outcome) := by
  simp [Performs]

/-- A second step is only ever taken on a value, so it is enough to know it for all values. -/
theorem bind {session : Session α} {next : α → Session β} (hsession : Performs allowed session)
    (hnext : ∀ value, Performs allowed (next value)) : Performs allowed (session >>= next) := by
  obtain ⟨actions, failure | value⟩ := session
  · exact hsession
  · intro action hmem
    rw [mk_ok_bind] at hmem
    exact (List.mem_append.mp hmem).elim (hsession action) (hnext value action)

theorem mono {other : Action → Prop} {session : Session α} (hsession : Performs allowed session)
    (hallowed : ∀ action, allowed action → other action) : Performs other session :=
  fun action hmem => hallowed action (hsession action hmem)

theorem mapM {part : α → Session β} (hparts : ∀ item, Performs allowed (part item))
    (items : List α) : Performs allowed (items.mapM part) := by
  induction items with
  | nil => exact .pure []
  | cons item rest ih =>
    rw [List.mapM_cons]
    exact .bind (hparts item) fun _ => .bind ih fun _ => .pure _

theorem followedBy {session : Session α} {last : Session Unit} (hsession : Performs allowed session)
    (hlast : Performs allowed last) : Performs allowed (session.followedBy last) := by
  unfold Session.followedBy
  split
  · exact hsession
  · intro action hmem
    exact (List.mem_append.mp hmem).elim (hsession action) (hlast action)

end Performs

end ExporterAudit.Session
