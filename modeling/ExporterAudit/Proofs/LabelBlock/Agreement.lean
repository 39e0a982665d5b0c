import ExporterAudit.Proofs.Line.Parts

/-!
The two readers of a label block. One finds the brace that ends the block, by the pattern of sample lines,
and one cuts the block at its commas, with a flag that every quote turns over. The pattern is given here
as a grammar and the cut as a walk with that flag alone, and both stand inside quotes at the same places.
-/

namespace ExporterAudit

namespace LabelBlock

open QuoteState

/-! ### The pattern -/

/-- What may stand between the quotes of a value: no quote and no backslash on its own, and after a
backslash any character that does not end a line. -/
inductive IsQuotable : Text → Prop
  | nil : IsQuotable []
  | plain {c : Char} {rest : Text} (hquote : c ≠ '"') (hslash : c ≠ '\\') (hrest : IsQuotable rest) :
    IsQuotable (c :: rest)
  | escaped {c : Char} {rest : Text} (hline : Text.isLineEnd c = false) (hrest : IsQuotable rest) :
    IsQuotable ('\\' :: c :: rest)

/-- What may stand between braces: characters that are no quotes and no closing braces, and quoted
texts. -/
inductive IsBlock : Text → Prop
  | nil : IsBlock []
  | plain {c : Char} {rest : Text} (hquote : c ≠ '"') (hbrace : c ≠ '}') (hrest : IsBlock rest) :
    IsBlock (c :: rest)
  | quoted {inside rest : Text} (hinside : IsQuotable inside) (hrest : IsBlock rest) :
    IsBlock ('"' :: (inside ++ '"' :: rest))

/-- A reader passes what stands between quotes, and is inside them behind it. -/
theorem IsQuotable.passes {inside : Text} (hinside : IsQuotable inside) :
    Avoids Stops .inside inside ∧ QuoteState.after .inside inside = .inside := by
  induction hinside with
  | nil => exact ⟨trivial, rfl⟩
  | @plain c rest hquote hslash hrest ih =>
    have hnext : next .inside c = .inside := by simp [next, hquote, hslash]
    rw [Avoids, after_cons, hnext]
    exact ⟨⟨by simp [Stops], ih.1⟩, ih.2⟩
  | @escaped c rest hline hrest ih =>
    have hslash : next .inside '\\' = .escaped := rfl
    have hnext : next .escaped c = .inside := rfl
    rw [Avoids, Avoids, after_cons, after_cons, hslash, hnext]
    exact ⟨⟨by simp [Stops], by simp [Stops, hline], ih.1⟩, ih.2⟩

/-- What the pattern matches ends outside quotes and has no brace there. -/
theorem IsBlock.isClosed {block : Text} (hblock : IsBlock block) : IsClosed block := by
  induction hblock with
  | nil => exact ⟨trivial, rfl⟩
  | @plain c rest hquote hbrace hrest ih =>
    have hnext := next_outside hquote
    constructor
    · rw [Avoids, hnext]
      exact ⟨by simp [Stops, hbrace], ih.passes⟩
    · rw [after_cons, hnext]
      exact ih.ends
  | @quoted inside rest hinside hrest ih =>
    obtain ⟨hpasses, hends⟩ := hinside.passes
    have hopen : next .outside '"' = .inside := rfl
    have hclose : next .inside '"' = .outside := rfl
    constructor
    · rw [Avoids, hopen, avoids_append, hends, Avoids, hclose]
      exact ⟨by simp [Stops], hpasses, by simp [Stops], ih.passes⟩
    · rw [after_cons, hopen, after_append, hends, after_cons, hclose]
      exact ih.ends

/-- What is left of a block, by where the reader stands in it. -/
def IsRest : QuoteState → Text → Prop
  | .outside, text => IsBlock text
  | .inside, text => ∃ inside rest, text = inside ++ '"' :: rest ∧ IsQuotable inside ∧ IsBlock rest
  | .escaped, text => ∃ c inside rest, text = c :: (inside ++ '"' :: rest) ∧ Text.isLineEnd c = false ∧
      IsQuotable inside ∧ IsBlock rest

/-- A text that ends outside quotes and has no brace there is matched, by induction on its
characters. -/
theorem isRest_of_passes {state : QuoteState} {text : Text} (hpasses : Avoids Stops state text)
    (hends : state.after text = .outside) : IsRest state text := by
  induction text generalizing state with
  | nil =>
    cases hends
    exact .nil
  | cons c rest ih =>
    obtain ⟨hmeets, hrest⟩ := hpasses
    have hleft := ih hrest hends
    cases state with
    | outside =>
      by_cases hquote : c = '"'
      · subst hquote
        obtain ⟨inside, others, rfl, hinside, hothers⟩ := hleft
        exact .quoted hinside hothers
      · rw [next_outside hquote] at hleft
        exact .plain hquote (fun hbrace => hmeets (.inl ⟨rfl, hbrace⟩)) hleft
    | inside =>
      by_cases hquote : c = '"'
      · subst hquote
        exact ⟨[], rest, rfl, .nil, hleft⟩
      · by_cases hslash : c = '\\'
        · subst hslash
          obtain ⟨d, inside, others, rfl, hline, hinside, hothers⟩ := hleft
          exact ⟨'\\' :: d :: inside, others, rfl, .escaped hline hinside, hothers⟩
        · have hnext : next .inside c = .inside := by simp [next, hquote, hslash]
          rw [hnext] at hleft
          obtain ⟨inside, others, rfl, hinside, hothers⟩ := hleft
          exact ⟨c :: inside, others, rfl, .plain hquote hslash hinside, hothers⟩
    | escaped =>
      obtain ⟨inside, others, rfl, hinside, hothers⟩ := hleft
      have hline : ¬ Text.isLineEnd c = true := fun hline => hmeets (.inr ⟨rfl, hline⟩)
      exact ⟨c, inside, others, rfl, Bool.not_eq_true _ ▸ hline, hinside, hothers⟩

theorem isBlock_iff_isClosed {block : Text} : IsBlock block ↔ IsClosed block :=
  ⟨IsBlock.isClosed, fun hclosed => isRest_of_passes hclosed.passes hclosed.ends⟩

/-! ### The cut -/

/-- A quote turns the flag over that tells whether a walk is inside quotes. -/
def turn (quoted : Bool) (c : Char) : Bool :=
  if c = '"' then !quoted else quoted

/-- Cuts a text at its commas with that flag alone: inside quotes a backslash takes the next character
along, and a comma cuts while the flag is not set. The flag at the end comes with the pieces. -/
def cutFlagged (quoted : Bool) (current : Text) : Text → Bool × List Text
  | [] => (quoted, [current])
  | c :: rest =>
    if quoted = true ∧ c = '\\' then
      match rest with
      | [] => (quoted, [current ++ [c]])
      | taken :: rest => cutFlagged quoted (current ++ [c, taken]) rest
    else if c = ',' ∧ turn quoted c = false then
      let (ends, others) := cutFlagged (turn quoted c) [] rest
      (ends, current :: others)
    else
      cutFlagged (turn quoted c) (current ++ [c]) rest

/-- Whether the walk is inside quotes behind a text. -/
def quotedAfter (text : Text) : Bool :=
  (cutFlagged false [] text).1

/-- Where a walk with the flag stands. -/
def ofFlag : Bool → QuoteState
  | false => .outside
  | true => .inside

/-- The flag is set unless the reader is outside quotes. -/
def flag (state : QuoteState) : Bool :=
  decide (state ≠ .outside)

/-- Unless a backslash takes a character along, the flag says all that the reader knows. -/
theorem next_ofFlag {quoted : Bool} {c : Char} (hslash : ¬ (quoted = true ∧ c = '\\')) :
    next (ofFlag quoted) c = ofFlag (turn quoted c) := by
  by_cases hquote : c = '"'
  · cases quoted <;> simp [next, ofFlag, turn, hquote]
  · cases quoted with
    | false => simp [next, ofFlag, turn, hquote]
    | true => simpa [next, ofFlag, turn, hquote] using hslash

/-- A comma cuts where the flag is down once it has been read, as it is outside quotes. -/
theorem cuts_ofFlag_iff {quoted : Bool} {c : Char} :
    (ofFlag quoted = .outside ∧ c = ',') ↔ c = ',' ∧ turn quoted c = false := by
  by_cases hcomma : c = ','
  · subst hcomma
    cases quoted <;> simp [ofFlag, turn]
  · simp [hcomma]

/-- The walk with the flag cuts where the reader does, and its flag is set where the reader is not outside
quotes. -/
theorem cutFlagged_eq (quoted : Bool) (current text : Text) :
    cutFlagged quoted current text =
      (flag ((ofFlag quoted).after text),
        (current ++ (pieces (ofFlag quoted) text).1) :: (pieces (ofFlag quoted) text).2) := by
  fun_induction cutFlagged quoted current text with
  | case1 quoted current => cases quoted <;> simp [ofFlag, flag, pieces]
  | case2 quoted current c hslash =>
    obtain ⟨rfl, rfl⟩ := hslash
    simp [ofFlag, flag, pieces, next]
  | case3 quoted current c hslash taken rest ih =>
    -- The character behind the backslash is passed in the same round.
    obtain ⟨rfl, rfl⟩ := hslash
    have hescape : next .inside '\\' = .escaped := rfl
    have htaken : next .escaped taken = .inside := rfl
    rw [ih]
    simp [ofFlag, pieces, hescape, htaken]
  | case4 quoted current c rest hslash hcuts ends others hrest ih =>
    rw [hrest, Prod.mk.injEq] at ih
    rw [after_cons, pieces, next_ofFlag hslash]
    simp only [cuts_ofFlag_iff, if_pos hcuts, List.append_nil, ih.1, ih.2, List.nil_append]
  | case5 quoted current c rest hslash hcuts ih =>
    rw [ih, after_cons, pieces, next_ofFlag hslash]
    simp only [cuts_ofFlag_iff, if_neg hcuts, List.append_assoc, List.singleton_append]

/-- The flag is down behind a text exactly if all of its quotes are closed. -/
theorem quotedAfter_eq_false_iff {text : Text} :
    quotedAfter text = false ↔ QuoteState.after .outside text = .outside := by
  rw [quotedAfter, cutFlagged_eq, flag, decide_eq_false_iff_not, not_not]
  rfl

/-- Within quotes the flag is up, behind a backslash too. -/
theorem quotedAfter_eq_true_iff {text : Text} :
    quotedAfter text = true ↔ QuoteState.after .outside text ≠ .outside := by
  rw [← Bool.not_eq_false, Ne, quotedAfter_eq_false_iff]

end LabelBlock

namespace Line.SampleParts

/-- The pattern of sample lines: a name, a block between braces or none, white space and a token. -/
structure Matches (parts : SampleParts) (line : Text) : Prop where
  named : IsName parts.name
  block : ∀ block ∈ parts.block, LabelBlock.IsBlock block
  token : parts.token ≠ [] ∧ parts.token.Unbroken
  spelled : ∃ gap, IsGap gap ∧ line = parts.name ++ (braced parts.block ++ (gap ++ parts.token))

theorem matches_iff_spells {parts : SampleParts} {line : Text} : parts.Matches line ↔ parts.Spells line := by
  constructor
  · rintro ⟨hnamed, hblock, htoken, hspelled⟩
    exact ⟨hnamed, fun block hmem => (hblock block hmem).isClosed, htoken, hspelled⟩
  · rintro ⟨hnamed, hclosed, htoken, hspelled⟩
    exact ⟨hnamed, fun block hmem => LabelBlock.isBlock_iff_isClosed.mpr (hclosed block hmem), htoken, hspelled⟩

end Line.SampleParts

namespace LabelBlock

open QuoteState

/-! ### Agreement -/

/-- A sample line with a block: the pattern and the cut agree on its quotes. The pattern matches the line in
this way only, and the block goes up to the first closing brace outside quotes. Behind every part of the
block from its start the cut is outside quotes exactly if that part is a block of the pattern on its own, so
it is outside quotes at the end. The pieces that it cuts join to the block again, each of them closes its
quotes and none holds a comma outside quotes; the pairs are these pieces without the white space around
them. -/
theorem scanners_agree_on_quotes {line block : Text} {parts : Line.SampleParts}
    (hparts : Line.sampleParts? line = some parts) (hblock : parts.block = some block) :
    (parts.Matches line ∧ ∀ others : Line.SampleParts, others.Matches line → others = parts) ∧
    (∀ before behind, block = before ++ '}' :: behind → quotedAfter before = true) ∧
    (∀ before behind, block = before ++ behind → (quotedAfter before = false ↔ IsBlock before)) ∧
    quotedAfter block = false ∧
    ∃ cut, (cutFlagged false [] block).2 = cut ∧ pairs block = (cut.map Text.trim).filter (· ≠ []) ∧
      Text.join "," cut = block ∧
      ∀ piece ∈ cut, quotedAfter piece = false ∧
        ∀ before behind, piece = before ++ ',' :: behind → quotedAfter before = true := by
  have hspells := Line.sampleParts?_eq_some_iff.mp hparts
  have hclosed := hspells.closed block hblock
  refine ⟨⟨Line.SampleParts.matches_iff_spells.mpr hspells, fun others hmatches => ?_⟩, ?_, ?_,
    quotedAfter_eq_false_iff.mpr hclosed.ends, ?_⟩
  · exact (Line.SampleParts.matches_iff_spells.mp hmatches).unique hspells
  · rintro before behind rfl
    obtain ⟨-, hbrace, -⟩ := avoids_append.mp hclosed.passes
    rw [quotedAfter_eq_true_iff]
    exact fun houtside => hbrace (.inl ⟨houtside, rfl⟩)
  · rintro before behind rfl
    obtain ⟨hpasses, -⟩ := avoids_append.mp hclosed.passes
    rw [quotedAfter_eq_false_iff, isBlock_iff_isClosed]
    exact ⟨fun hends => ⟨hpasses, hends⟩, fun hbefore => hbefore.ends⟩
  · obtain ⟨hjoined, hfirst, hends, hothers⟩ := pieces_spec hclosed.ends
    have hcut : IsCut block ((pieces .outside block).1 :: (pieces .outside block).2) :=
      ⟨List.cons_ne_nil _ _, hjoined, List.forall_mem_cons.mpr ⟨⟨hfirst, hends⟩, hothers⟩⟩
    refine ⟨_, rfl, ?_⟩
    rw [cutFlagged_eq, List.nil_append]
    refine ⟨hcut.pairs_eq, hjoined, fun piece hmem => ?_⟩
    obtain ⟨huncut, hbalanced⟩ := hcut.pieces piece hmem
    refine ⟨quotedAfter_eq_false_iff.mpr hbalanced, ?_⟩
    rintro before behind rfl
    obtain ⟨-, hcomma, -⟩ := avoids_append.mp huncut
    rw [quotedAfter_eq_true_iff]
    exact fun houtside => hcomma ⟨houtside, rfl⟩

/-- A value that holds a comma, a brace and an escaped quote, and a second pair. -/
def awkwardBlock : Text :=
  "path=\"/a,\x7d\\\"b\", zone=\"eu\"".toList

theorem scanners_agree_on_quotes_awkwardBlock :
    ∃ parts, Line.sampleParts? ("up\x7b" ++ awkwardBlock ++ "\x7d 1") = some parts ∧
      parts.block = some awkwardBlock ∧ parts.Matches ("up\x7b" ++ awkwardBlock ++ "\x7d 1") ∧
      quotedAfter "path=\"/a," = true ∧ IsBlock "path=\"/a,\x7d\\\"b\"" ∧
      ∃ cut : List Text, pairs awkwardBlock = (cut.map Text.trim).filter (· ≠ []) ∧ cut.length = 2 ∧
        ∀ piece ∈ cut, quotedAfter piece = false := by
  have hparts : Line.sampleParts? ("up\x7b" ++ awkwardBlock ++ "\x7d 1") =
      some ⟨"up", some awkwardBlock, "1"⟩ := by
    decide +kernel
  obtain ⟨⟨hmatches, -⟩, hbrace, hbegins, -, cut, hcut, hpairs, -, hpieces⟩ :=
    scanners_agree_on_quotes hparts rfl
  have hpath : quotedAfter "path=\"/a,\x7d\\\"b\"" = false := by decide +kernel
  have hinside : awkwardBlock = "path=\"/a,".toList ++ '}' :: "\\\"b\", zone=\"eu\"".toList := by
    decide +kernel
  have hfirst : awkwardBlock = "path=\"/a,\x7d\\\"b\"".toList ++ ", zone=\"eu\"".toList := by
    decide +kernel
  refine ⟨_, hparts, rfl, hmatches, hbrace _ _ hinside, (hbegins _ _ hfirst).mp hpath, cut, hpairs, ?_,
    fun piece hmem => (hpieces piece hmem).1⟩
  rw [← hcut]
  decide +kernel

end LabelBlock

end ExporterAudit
