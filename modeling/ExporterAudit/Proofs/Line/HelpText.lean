import ExporterAudit.Proofs.Line.Written

/-!
Help texts as exporters write them. A backslash and a line feed are escaped, everything else stands as
it is, double quotes included. The header is read back as the name and the text, unless a line end
other than a line feed stands in the text.
-/

namespace ExporterAudit.Line

open LabelBlock (IsWriting unescape unescape_flatMap)

/-- A backslash stands before a backslash and the `n` of a line feed. -/
def escapeHelpChar (c : Char) : Text :=
  if c = '\\' then ['\\', '\\'] else if c = '\n' then ['\\', 'n'] else [c]

def escapeHelp (text : Text) : Text :=
  text.flatMap escapeHelpChar

/-- A help header as an exporter writes it. -/
def helpLine (name text : Text) : Text :=
  headerLine .help name (escapeHelp text)

/-- Each character is written in one of the ways that are undone. -/
theorem isWriting_escapeHelpChar (c : Char) : IsWriting c (escapeHelpChar c) := by
  unfold escapeHelpChar
  by_cases hslash : c = '\\'
  · exact .inr ⟨'\\', by simp [hslash], by decide, hslash.symm⟩
  by_cases hfeed : c = '\n'
  · exact .inr ⟨'n', by simp [hfeed], by decide, hfeed.symm⟩
  exact .inl ⟨hslash, by simp [hslash, hfeed]⟩

/-- Escaping loses nothing, double quotes included, which are left as they are. -/
theorem unescape_escapeHelp (text : Text) : unescape (escapeHelp text) = text :=
  unescape_flatMap isWriting_escapeHelpChar text

/-! ### White space and line ends -/

/-- Neither end of the text is white space other than a line feed. -/
def IsHelpText (text : Text) : Prop :=
  (∀ c ∈ text.head?, Text.isBlank c = true → c = '\n') ∧
    ∀ c ∈ text.getLast?, Text.isBlank c = true → c = '\n'

/-- Every line end in the text is a line feed. -/
def OnlyFeeds (text : Text) : Prop :=
  ∀ c ∈ text, Text.isLineEnd c = true → c = '\n'

instance (text : Text) : Decidable (OnlyFeeds text) :=
  decidable_of_iff (text.all (fun c => !Text.isLineEnd c || c == '\n') = true) <| by
    simp [OnlyFeeds, or_iff_not_imp_left]

instance (text : Text) : Decidable (IsHelpText text) :=
  decidable_of_iff ((text.head?.all fun c => !Text.isBlank c || c == '\n') = true ∧
      (text.getLast?.all fun c => !Text.isBlank c || c == '\n') = true) <| by
    simp [IsHelpText, Option.all_eq_true, or_iff_not_imp_left]

/-- Escapes bring no white space into the text, and they take line feeds out of it. -/
theorem mem_escapeHelpChar_iff {c d : Char} (hblank : Text.isBlank d = true) :
    d ∈ escapeHelpChar c ↔ d = c ∧ d ≠ '\n' := by
  have hslash : d ≠ '\\' := by
    rintro rfl
    exact absurd hblank (by decide)
  have hletter : d ≠ 'n' := by
    rintro rfl
    exact absurd hblank (by decide)
  unfold escapeHelpChar
  split_ifs with hescaped hfeed
  · simp [hescaped, hslash]
  · simp [hfeed, hslash, hletter]
  · simp only [List.mem_singleton, iff_self_and]
    rintro rfl
    exact hfeed

/-- The white space of a text is left in it, but for the line feeds. -/
theorem mem_escapeHelp_iff {c : Char} (hblank : Text.isBlank c = true) (text : Text) :
    c ∈ escapeHelp text ↔ c ∈ text ∧ c ≠ '\n' := by
  simp [escapeHelp, List.mem_flatMap, mem_escapeHelpChar_iff hblank]

theorem escapeHelpChar_ne_nil (c : Char) : escapeHelpChar c ≠ [] := by
  unfold escapeHelpChar
  split_ifs <;> exact List.cons_ne_nil _ _

/-- Only the blank in front is trimmed, since a line feed at either end of the text is escaped. -/
theorem trim_escapeHelp {text : Text} (htext : IsHelpText text) :
    Text.trim (' ' :: escapeHelp text) = escapeHelp text := by
  obtain ⟨hfirst, hlast⟩ := htext
  have hends : ∀ c d : Char, (Text.isBlank c = true → c = '\n') → d ∈ escapeHelpChar c →
      Text.isBlank d = false := by
    intro c d hend hmem
    by_contra hblank
    rw [Bool.not_eq_false] at hblank
    obtain ⟨rfl, hfeed⟩ := (mem_escapeHelpChar_iff hblank).mp hmem
    exact hfeed (hend hblank)
  rw [Text.trim, Text.trimStart_blank_cons (by decide), ← Text.trim]
  refine Text.trim_eq_self (fun d hd => ?_) fun d hd => ?_
  · cases text with
    | nil => cases hd
    | cons c rest =>
      rw [escapeHelp, List.flatMap_cons, List.head?_append_of_ne_nil _ (escapeHelpChar_ne_nil c)] at hd
      exact hends c d (hfirst c rfl) (List.mem_of_mem_head? hd)
  · rcases List.eq_nil_or_concat text with rfl | ⟨before, c, rfl⟩
    · cases hd
    · rw [escapeHelp, List.concat_eq_append, List.flatMap_append, List.flatMap_singleton,
        List.getLast?_append_of_ne_nil _ (escapeHelpChar_ne_nil c)] at hd
      exact hends c d (hlast c (by simp)) (List.mem_of_mem_getLast? hd)

/-- Once line feeds are escaped, only the other line ends are left to break a header. -/
theorem any_isLineEnd_escapeHelp {text : Text} :
    (escapeHelp text).any Text.isLineEnd = false ↔ OnlyFeeds text := by
  have hblank : ∀ c, Text.isLineEnd c = true → Text.isBlank c = true := by
    intro c hlineEnd
    simp only [Text.isLineEnd, Bool.or_eq_true, beq_iff_eq] at hlineEnd
    rcases hlineEnd with ((hn | hn) | hn) | hn <;> simp [Text.isBlank, hn]
  rw [List.any_eq_false]
  constructor
  · intro hnone c htext hlineEnd
    by_contra hfeed
    exact hnone c ((mem_escapeHelp_iff (hblank c hlineEnd) text).mpr ⟨htext, hfeed⟩) hlineEnd
  · intro hfeeds c hmem hlineEnd
    obtain ⟨htext, hfeed⟩ := (mem_escapeHelp_iff (hblank c hlineEnd) text).mp hmem
    exact hfeed (hfeeds c htext hlineEnd)

/-! ### Reading it back -/

variable {name text : Text}

theorem read_helpLine_of_onlyFeeds (hname : Text.IsWord name) (htext : IsHelpText text)
    (hfeeds : OnlyFeeds text) : read (helpLine name text) = .ok (.help name text) := by
  have hnamed := isNamed_headerLine .help hname (escapeHelp text)
  rw [helpLine, hnamed.read_help, trim_escapeHelp htext, any_isLineEnd_escapeHelp.mpr hfeeds,
    unescape_escapeHelp]
  rfl

/-- With another line end in its text a help line still starts with a hash, and it is read as a
comment. -/
theorem exists_comment_of_helpLine (hname : Text.IsWord name) (htext : IsHelpText text)
    (hlines : ¬ OnlyFeeds text) : ∃ comment, read (helpLine name text) = .ok (.comment comment) := by
  have hnamed := isNamed_headerLine .help hname (escapeHelp text)
  rw [← any_isLineEnd_escapeHelp, Bool.not_eq_false] at hlines
  rw [helpLine, hnamed.read_help, trim_escapeHelp htext, hlines]
  exact ⟨_, rfl⟩

/-- A help header is read back as its name and its text exactly if no line end other than a line feed
stands in the text. -/
theorem read_helpLine_eq_iff (hname : Text.IsWord name) (htext : IsHelpText text) :
    read (helpLine name text) = .ok (.help name text) ↔ OnlyFeeds text := by
  refine ⟨fun hread => ?_, read_helpLine_of_onlyFeeds hname htext⟩
  by_contra hlines
  obtain ⟨comment, hcomment⟩ := exists_comment_of_helpLine hname htext hlines
  rw [hread] at hcomment
  cases hcomment

/-- White space around a help header does not change what it is read as. -/
theorem read_eq_of_trim_eq {line : Text} (hname : Text.IsWord name)
    (htrim : line.trim = (helpLine name text).trim) : read line = read (helpLine name text) := by
  obtain ⟨rest, hmarked⟩ := (isNamed_headerLine .help hname (escapeHelp text)).exists_isMarked
  obtain ⟨others, hhash⟩ := List.head?_eq_some_iff.mp hmarked.hash
  rw [helpLine, hmarked.read_eq, ← helpLine, read, htrim, helpLine, hhash]
  rfl

end ExporterAudit.Line
