import ExporterAudit.LabelBlock
import ExporterAudit.Proofs.Text.Lines

/-!
How the readers of label blocks walk over a text. Both are the same walk, outside and inside
double quotes, and differ in the characters that stop them; a text without those is passed as a
whole.
-/

namespace ExporterAudit.LabelBlock

namespace QuoteState

/-- Where a reader stands after a text. -/
def after (state : QuoteState) (text : Text) : QuoteState :=
  text.foldl next state

@[simp]
theorem after_nil (state : QuoteState) : state.after [] = state := rfl

@[simp]
theorem after_cons (state : QuoteState) (c : Char) (rest : Text) :
    state.after (c :: rest) = (state.next c).after rest := rfl

@[simp]
theorem after_append (state : QuoteState) (first second : Text) :
    state.after (first ++ second) = (state.after first).after second :=
  List.foldl_append

/-- A closing brace outside quotes ends a block; a line end after a backslash spoils it. -/
def Stops (state : QuoteState) (c : Char) : Prop :=
  (state = .outside ∧ c = '}') ∨ (state = .escaped ∧ Text.isLineEnd c = true)

/-- A comma outside quotes ends a pair. -/
def Cuts (state : QuoteState) (c : Char) : Prop :=
  state = .outside ∧ c = ','

instance (state : QuoteState) (c : Char) : Decidable (Cuts state c) :=
  inferInstanceAs (Decidable (_ ∧ _))

/-- Whether a reader in a state gets through a text without meeting a certain kind of character. -/
def Avoids (meets : QuoteState → Char → Prop) : QuoteState → Text → Prop
  | _, [] => True
  | state, c :: rest => ¬ meets state c ∧ Avoids meets (state.next c) rest

instance decidableAvoids {meets : QuoteState → Char → Prop} [∀ state c, Decidable (meets state c)] :
    (state : QuoteState) → (text : Text) → Decidable (Avoids meets state text)
  | _, [] => inferInstanceAs (Decidable True)
  | state, c :: rest => @instDecidableAnd _ _ inferInstance (decidableAvoids (state.next c) rest)

theorem avoids_append {meets : QuoteState → Char → Prop} {state : QuoteState} {first second : Text} :
    Avoids meets state (first ++ second) ↔
      Avoids meets state first ∧ Avoids meets (state.after first) second := by
  induction first generalizing state with
  | nil => simp [Avoids]
  | cons c rest ih => simp [Avoids, ih, and_assoc]

theorem next_outside {c : Char} (hquote : c ≠ '"') : next .outside c = .outside := by
  simp [next, hquote]

/-- Outside quotes a text without quotes is passed if none of its characters is met there. -/
theorem avoids_outside {meets : QuoteState → Char → Prop} {text : Text}
    (hquote : '"' ∉ text) (hmeets : ∀ c ∈ text, ¬ meets .outside c) :
    Avoids meets .outside text ∧ after .outside text = .outside := by
  induction text with
  | nil => exact ⟨trivial, rfl⟩
  | cons c rest ih =>
    rw [List.mem_cons, not_or] at hquote
    have hnext := next_outside (Ne.symm hquote.1)
    obtain ⟨hrest, hends⟩ := ih hquote.2 fun d hd => hmeets d (List.mem_cons_of_mem c hd)
    exact ⟨⟨hmeets c List.mem_cons_self, by rwa [hnext]⟩, by rwa [after_cons, hnext]⟩

end QuoteState

open QuoteState

/-- The first closing brace outside quotes ends the block. -/
theorem close?_append {state : QuoteState} {block : Text} (hpasses : Avoids Stops state block)
    (hends : state.after block = .outside) (after : Text) :
    close? state (block ++ '}' :: after) = some (block, after) := by
  induction block generalizing state with
  | nil =>
    cases hends
    rfl
  | cons c rest ih =>
    obtain ⟨hmeets, hrest⟩ := hpasses
    obtain ⟨hclosing, hspoiling⟩ := not_or.mp hmeets
    rw [List.cons_append, close?, if_neg hclosing, if_neg hspoiling, ih hrest hends]
    rfl

/-- The block ends at the first brace outside quotes. -/
theorem close?_eq_some_iff {state : QuoteState} {text block after : Text} :
    close? state text = some (block, after) ↔
      text = block ++ '}' :: after ∧ Avoids Stops state block ∧ state.after block = .outside := by
  refine ⟨fun hclose => ?_, fun ⟨htext, hpasses, hends⟩ => htext ▸ close?_append hpasses hends after⟩
  induction text generalizing state block with
  | nil => cases hclose
  | cons c rest ih =>
    rw [close?] at hclose
    split at hclose
    · next hclosing =>
      cases hclose
      exact ⟨by rw [hclosing.2]; rfl, trivial, hclosing.1⟩
    · next hclosing =>
      split at hclose
      · cases hclose
      · next hspoiling =>
        obtain ⟨⟨inner, behind⟩, hrest, hpair⟩ := Option.map_eq_some_iff.mp hclose
        cases hpair
        obtain ⟨htext, hpasses, hends⟩ := ih hrest
        exact ⟨by rw [htext]; rfl, ⟨not_or.mpr ⟨hclosing, hspoiling⟩, hpasses⟩, hends⟩

/-- A piece goes up to the first comma outside quotes. -/
theorem pieces_append {state : QuoteState} {piece : Text} (hpasses : Avoids Cuts state piece)
    (hends : state.after piece = .outside) (others : Text) :
    pieces state (piece ++ ',' :: others) =
      (piece, (pieces .outside others).1 :: (pieces .outside others).2) := by
  induction piece generalizing state with
  | nil =>
    cases hends
    rfl
  | cons c rest ih =>
    rw [List.cons_append, pieces, ih hpasses.2 hends]
    exact if_neg hpasses.1

/-- A text without a comma outside quotes is one piece. -/
theorem pieces_eq_singleton {state : QuoteState} {piece : Text} (hpasses : Avoids Cuts state piece) :
    pieces state piece = (piece, []) := by
  induction piece generalizing state with
  | nil => rfl
  | cons c rest ih =>
    rw [pieces, ih hpasses.2]
    exact if_neg hpasses.1

/-! ### Cutting -/

/-- A piece between two commas: it holds none outside quotes, and behind it the reader is outside
quotes again. -/
structure IsUncut (piece : Text) : Prop where
  uncut : Avoids Cuts .outside piece
  ends : QuoteState.after .outside piece = .outside

instance (piece : Text) : Decidable (IsUncut piece) :=
  decidable_of_iff (Avoids Cuts .outside piece ∧ QuoteState.after .outside piece = .outside)
    ⟨fun h => ⟨h.1, h.2⟩, fun h => ⟨h.uncut, h.ends⟩⟩

/-- The pieces of a block between its commas. A comma inside double quotes is none of them. -/
structure IsCut (block : Text) (cut : List Text) : Prop where
  nonempty : cut ≠ []
  joined : Text.join "," cut = block
  pieces : ∀ piece ∈ cut, IsUncut piece

instance (block : Text) (cut : List Text) : Decidable (IsCut block cut) :=
  decidable_of_iff (cut ≠ [] ∧ Text.join "," cut = block ∧ ∀ piece ∈ cut, IsUncut piece)
    ⟨fun h => ⟨h.1, h.2.1, h.2.2⟩, fun h => ⟨h.nonempty, h.joined, h.pieces⟩⟩

/-- Pieces that are put together with commas come apart again where they were joined. -/
theorem pieces_join {piece : Text} {others : List Text}
    (hpieces : ∀ other ∈ piece :: others, IsUncut other) :
    pieces .outside (Text.join "," (piece :: others)) = (piece, others) := by
  induction others generalizing piece with
  | nil => rw [Text.join_singleton, pieces_eq_singleton (hpieces piece List.mem_cons_self).uncut]
  | cons second others ih =>
    have hpiece := hpieces piece List.mem_cons_self
    have hrest := ih fun other hmem => hpieces other (List.mem_cons_of_mem piece hmem)
    rw [Text.join_cons_cons, List.append_assoc]
    change pieces .outside (piece ++ ',' :: Text.join "," (second :: others)) = _
    rw [pieces_append hpiece.uncut hpiece.ends, hrest]

/-- A block has one cut, and its pairs are the pieces without the white space around them. -/
theorem IsCut.pairs_eq {block : Text} {cut : List Text} (hcut : IsCut block cut) :
    pairs block = (cut.map Text.trim).filter (· ≠ []) := by
  obtain ⟨hnonempty, rfl, hpieces⟩ := hcut
  obtain ⟨piece, others, rfl⟩ := List.exists_cons_of_ne_nil hnonempty
  rw [pairs, pieces_join hpieces]

/-- The pieces put together are the text, and none of them holds a comma outside quotes. -/
theorem pieces_spec {state : QuoteState} {text : Text} (hends : state.after text = .outside) :
    Text.join "," ((pieces state text).1 :: (pieces state text).2) = text ∧
      Avoids Cuts state (pieces state text).1 ∧ state.after (pieces state text).1 = .outside ∧
      ∀ other ∈ (pieces state text).2, IsUncut other := by
  induction text generalizing state with
  | nil => exact ⟨rfl, trivial, hends, by simp [pieces]⟩
  | cons c rest ih =>
    obtain ⟨hjoined, hpasses, hfirst, hothers⟩ := ih hends
    by_cases hcuts : state = .outside ∧ c = ','
    · simp only [pieces, if_pos hcuts]
      obtain ⟨rfl, rfl⟩ := hcuts
      refine ⟨?_, trivial, rfl, List.forall_mem_cons.mpr ⟨⟨hpasses, hfirst⟩, hothers⟩⟩
      rw [Text.join_cons_cons]
      exact congrArg (',' :: ·) hjoined
    · simp only [pieces, if_neg hcuts]
      refine ⟨?_, ⟨hcuts, hpasses⟩, hfirst, hothers⟩
      rw [Text.join_cons] at hjoined ⊢
      exact congrArg (c :: ·) hjoined

theorem exists_isCut {block : Text} (hends : QuoteState.after .outside block = .outside) :
    ∃ cut, IsCut block cut := by
  obtain ⟨hjoined, hpasses, hfirst, hothers⟩ := pieces_spec hends
  exact ⟨_, List.cons_ne_nil _ _, hjoined, List.forall_mem_cons.mpr ⟨⟨hpasses, hfirst⟩, hothers⟩⟩

/-! ### Blocks put together -/

/-- A pair as it can stand in a block: readers pass it and are outside quotes again behind it, and
no white space stands around it. -/
structure IsPiece (piece : Text) : Prop extends IsUncut piece where
  unstopped : Avoids Stops .outside piece
  nonempty : piece ≠ []
  trimmed : piece.trim = piece

/-- A block of pieces is passed as a whole. -/
theorem passes_join {written : List Text} (hpieces : ∀ piece ∈ written, IsPiece piece) :
    Avoids Stops .outside (Text.join "," written) ∧
      QuoteState.after .outside (Text.join "," written) = .outside := by
  induction written with
  | nil => exact ⟨trivial, rfl⟩
  | cons piece rest ih =>
    have hpiece := hpieces piece List.mem_cons_self
    obtain ⟨hrest, hends⟩ := ih fun other hmem => hpieces other (List.mem_cons_of_mem piece hmem)
    cases rest with
    | nil =>
      rw [Text.join_singleton]
      exact ⟨hpiece.unstopped, hpiece.ends⟩
    | cons second others =>
      have hcomma : Avoids Stops .outside [','] := ⟨by simp [Stops], trivial⟩
      rw [Text.join_cons_cons]
      simp only [avoids_append, after_append, hpiece.ends]
      exact ⟨⟨⟨hpiece.unstopped, hcomma⟩, hrest⟩, hends⟩

/-- A block comes apart into the pieces that it was joined from. -/
theorem pairs_join {written : List Text} (hpieces : ∀ piece ∈ written, IsPiece piece) :
    pairs (Text.join "," written) = written := by
  cases written with
  | nil => rfl
  | cons piece others =>
    have hcut : IsCut (Text.join "," (piece :: others)) (piece :: others) :=
      ⟨List.cons_ne_nil _ _, rfl, fun other hmem => (hpieces other hmem).toIsUncut⟩
    have htrim : (piece :: others).map Text.trim = piece :: others :=
      (List.map_congr_left fun other hmem => (hpieces other hmem).trimmed).trans (List.map_id _)
    rw [hcut.pairs_eq, htrim, List.filter_eq_self]
    exact fun other hmem => decide_eq_true (hpieces other hmem).nonempty

end ExporterAudit.LabelBlock
