import ExporterAudit.Text.Blank
import Mathlib.Data.List.Basic

/-!
Texts that are put together and cut apart again: lines, words and what stands around white space.
-/

namespace ExporterAudit.Text

/-- The parts of a text are those of the list of its characters. -/
theorem splitOn_eq (separator : Char) (text : Text) :
    splitOn separator text = List.splitOn separator text := by
  induction text with
  | nil => rfl
  | cons c rest ih =>
    rw [splitOn, ih, List.splitOn_cons_eq_if_modifyHead]
    obtain ⟨piece, pieces, hpieces⟩ := List.exists_cons_of_ne_nil (List.splitOn_ne_nil separator rest)
    simp only [hpieces, beq_iff_eq, List.modifyHead_cons]

/-- Lines that are joined come apart again. -/
theorem splitOn_join {separator : Char} {lines : List Text} (hnonempty : lines ≠ [])
    (hfree : ∀ line ∈ lines, separator ∉ line) :
    splitOn separator (join [separator] lines) = lines := by
  rw [splitOn_eq]
  exact List.splitOn_intercalate separator hfree hnonempty

/-- A text is cut at the first separator. -/
theorem splitFirst?_append {separator : Char} {before : Text} (hfree : separator ∉ before)
    (after : Text) : splitFirst? separator (before ++ separator :: after) = some (before, after) := by
  induction before with
  | nil => simp [splitFirst?]
  | cons c rest ih =>
    rw [List.mem_cons, not_or] at hfree
    simp [splitFirst?, Ne.symm hfree.1, ih hfree.2]

/-- The cut is at the first separator, so the part before it has none. -/
theorem splitFirst?_eq_some_iff {separator : Char} {text before after : Text} :
    splitFirst? separator text = some (before, after) ↔
      text = before ++ separator :: after ∧ separator ∉ before := by
  refine ⟨fun hsplit => ?_, fun ⟨htext, hfree⟩ => htext ▸ splitFirst?_append hfree after⟩
  induction text generalizing before with
  | nil => cases hsplit
  | cons c rest ih =>
    rw [splitFirst?] at hsplit
    split at hsplit
    · next hsame =>
      cases hsplit
      exact ⟨by rw [hsame]; rfl, List.not_mem_nil⟩
    · next hother =>
      obtain ⟨⟨piece, others⟩, hrest, hpair⟩ := Option.map_eq_some_iff.mp hsplit
      cases hpair
      obtain ⟨htext, hfree⟩ := ih hrest
      exact ⟨by rw [htext]; rfl, List.not_mem_cons_of_ne_of_not_mem (Ne.symm hother) hfree⟩

theorem not_mem_of_splitFirst? {separator : Char} {text before after : Text}
    (hsplit : splitFirst? separator text = some (before, after)) : separator ∉ before :=
  (splitFirst?_eq_some_iff.mp hsplit).2

theorem splitFirst?_eq_none {separator : Char} {text : Text} (hfree : separator ∉ text) :
    splitFirst? separator text = none := by
  rw [Option.eq_none_iff_forall_ne_some]
  rintro ⟨before, after⟩ hsplit
  rw [(splitFirst?_eq_some_iff.mp hsplit).1] at hfree
  simp at hfree

/-- A word is taken up to the first character that does not belong to it. -/
theorem takeWhile_word {belongs : Char → Bool} {word rest : Text} (hword : ∀ c ∈ word, belongs c = true)
    (hrest : ∀ c ∈ rest.head?, belongs c = false) : (word ++ rest).takeWhile belongs = word := by
  rw [List.takeWhile_append_of_pos hword]
  cases rest with
  | nil => simp
  | cons c rest => simp [hrest c rfl]

/-- A word is dropped as a whole, and no more than the word. -/
theorem dropWhile_word {belongs : Char → Bool} {word rest : Text} (hword : ∀ c ∈ word, belongs c = true)
    (hrest : ∀ c ∈ rest.head?, belongs c = false) : (word ++ rest).dropWhile belongs = rest := by
  rw [List.dropWhile_append_of_pos hword]
  cases rest with
  | nil => rfl
  | cons c rest => simp [hrest c rfl]

theorem head?_dropWhile {belongs : Char → Bool} {text : Text} :
    ∀ c ∈ (text.dropWhile belongs).head?, belongs c = false := by
  intro c hc
  have hfirst := List.head?_dropWhile_not belongs text
  rwa [Option.mem_def.mp hc] at hfirst

theorem dropPrefix?_eq_some_iff {beginning text rest : Text} :
    dropPrefix? beginning text = some rest ↔ text = beginning ++ rest := by
  induction beginning generalizing text with
  | nil => simp [dropPrefix?, eq_comm]
  | cons b beginning ih =>
    cases text with
    | nil => simp [dropPrefix?]
    | cons c text =>
      rw [dropPrefix?, List.cons_append, List.cons.injEq]
      split
      · next hsame => rw [ih, eq_comm (a := c), and_iff_right hsame]
      · next hother => simp [Ne.symm hother]

theorem join_cons_cons (separator first second : Text) (others : List Text) :
    join separator (first :: second :: others) =
      first ++ separator ++ join separator (second :: others) := by
  simp [join, List.intercalate_cons_cons]

theorem join_singleton (separator text : Text) : join separator [text] = text := by
  simp [join]

theorem join_cons (separator first : Text) (others : List Text) :
    join separator (first :: others) = first ++ others.flatMap (separator ++ ·) := by
  induction others generalizing first with
  | nil => simp [join_singleton]
  | cons second others ih => rw [join_cons_cons, ih, List.flatMap_cons, List.append_assoc]; simp

/-- What occurs in a joined text comes from a separator or from one of the texts. -/
theorem mem_join {separator : Text} {texts : List Text} {c : Char} (hmem : c ∈ join separator texts) :
    c ∈ separator ∨ ∃ text ∈ texts, c ∈ text := by
  induction texts with
  | nil => cases hmem
  | cons first rest ih =>
    cases rest with
    | nil =>
      rw [join_singleton] at hmem
      exact .inr ⟨first, List.mem_cons_self, hmem⟩
    | cons second others =>
      rw [join_cons_cons, List.append_assoc, List.mem_append, List.mem_append] at hmem
      rcases hmem with hfirst | hseparator | hrest
      · exact .inr ⟨first, List.mem_cons_self, hfirst⟩
      · exact .inl hseparator
      · refine (ih hrest).imp_right fun ⟨text, htext, hc⟩ => ?_
        exact ⟨text, List.mem_cons_of_mem first htext, hc⟩

/-- A joined text ends as the last of its parts does, provided that it is not empty. -/
theorem getLast?_join {separator last : Text} (earlier : List Text) (hlast : last ≠ []) :
    (join separator (earlier ++ [last])).getLast? = last.getLast? := by
  induction earlier with
  | nil => rw [List.nil_append, join_singleton]
  | cons first rest ih =>
    obtain ⟨second, others, hrest⟩ :=
      List.exists_cons_of_ne_nil (l := rest ++ [last]) (by simp)
    have hjoined : join separator (rest ++ [last]) ≠ [] := by
      rw [← List.getLast?_isSome, ih, List.getLast?_isSome]
      exact hlast
    rw [List.cons_append, hrest, join_cons_cons, ← hrest, List.getLast?_append_of_ne_nil _ hjoined, ih]

/-! ### White space -/

/-- A text without white space. -/
def Unbroken (text : Text) : Prop :=
  ∀ c ∈ text, isBlank c = false

instance (text : Text) : Decidable text.Unbroken :=
  decidable_of_iff (text.all (!isBlank ·) = true) (by simp [Unbroken])

theorem isBlank_of_graphic {c : Char} (hlow : 32 < c.toNat) (hhigh : c.toNat < 127) :
    isBlank c = false := by
  simp only [isBlank, Bool.or_eq_false_iff, Bool.and_eq_false_iff, decide_eq_false_iff_not,
    beq_eq_false_iff_ne]
  omega

theorem isBlank_of_isAlphanum {c : Char} (halphanum : c.isAlphanum = true) : isBlank c = false := by
  have hrange : 48 ≤ c.toNat ∧ c.toNat ≤ 122 := by
    delta Char.isAlphanum Char.isAlpha Char.isUpper Char.isLower Char.isDigit at halphanum
    simp [UInt32.le_iff_toNat_le] at halphanum
    omega
  exact isBlank_of_graphic (by omega) (by omega)

theorem trimStart_eq_self {text : Text} (hfirst : ∀ c ∈ text.head?, isBlank c = false) :
    trimStart text = text := by
  cases text with
  | nil => rfl
  | cons c rest => exact List.dropWhile_cons_of_neg (by simp [hfirst c rfl])

/-- White space goes up to the last character that is none. -/
theorem trimEnd_append_blank {text blank : Text} (hlast : ∀ c ∈ text.getLast?, isBlank c = false)
    (hblank : ∀ c ∈ blank, isBlank c = true) : trimEnd (text ++ blank) = text := by
  have hreverse : ∀ c ∈ blank.reverse, isBlank c = true := by simpa using hblank
  have hfirst : ∀ c ∈ text.reverse.head?, isBlank c = false := by simpa using hlast
  rw [trimEnd, List.reverse_append, List.dropWhile_append_of_pos hreverse]
  change (trimStart text.reverse).reverse = text
  rw [trimStart_eq_self hfirst, List.reverse_reverse]

theorem trimEnd_eq_self {text : Text} (hlast : ∀ c ∈ text.getLast?, isBlank c = false) :
    trimEnd text = text := by
  have htrim := trimEnd_append_blank hlast (List.forall_mem_nil _)
  rwa [List.append_nil] at htrim

/-- Only white space at the ends of a text is trimmed, not that within. -/
theorem trim_eq_self {text : Text} (hfirst : ∀ c ∈ text.head?, isBlank c = false)
    (hlast : ∀ c ∈ text.getLast?, isBlank c = false) : trim text = text := by
  rw [trim, trimStart_eq_self hfirst, trimEnd_eq_self hlast]

/-- A text without white space is trimmed. -/
theorem trim_of_unbroken {text : Text} (hunbroken : text.Unbroken) : trim text = text :=
  trim_eq_self (fun c hc => hunbroken c (List.mem_of_mem_head? hc))
    (fun c hc => hunbroken c (List.mem_of_mem_getLast? hc))

/-- White space is taken off behind the last character that is none. -/
theorem trimEnd_append {first : Text} (hlast : ∀ c ∈ first.getLast?, isBlank c = false)
    (second : Text) :
    trimEnd (first ++ second) = first ++ trimEnd second := by
  have hhead : ∀ c ∈ first.reverse.head?, isBlank c = false := by simpa using hlast
  have hstart : first.reverse.dropWhile isBlank = first.reverse := trimStart_eq_self hhead
  rw [trimEnd, trimEnd, List.reverse_append, List.dropWhile_append, hstart]
  split
  · next hempty => simp [List.isEmpty_iff.mp hempty]
  · simp

theorem trimEnd_prefix (text : Text) : trimEnd text <+: text := by
  simpa [trimEnd] using List.reverse_prefix.mpr (List.dropWhile_suffix isBlank (l := text.reverse))

theorem trim_subset (text : Text) : trim text ⊆ text := by
  have hend := trimEnd_prefix text.trimStart
  exact List.Subset.trans hend.subset (List.dropWhile_suffix isBlank).subset

theorem trimStart_blank_cons {c : Char} (hblank : isBlank c = true) (text : Text) :
    trimStart (c :: text) = trimStart text :=
  List.dropWhile_cons_of_pos hblank

/-! ### Words -/

/-- Something, and no white space in it. -/
def IsWord (text : Text) : Prop :=
  text ≠ [] ∧ text.Unbroken

instance (text : Text) : Decidable (IsWord text) :=
  inferInstanceAs (Decidable (_ ∧ _))

/-- A text that starts with a word does not start with white space, whatever follows the word. -/
theorem IsWord.head {word : Text} (hword : IsWord word) (rest : Text) :
    ∀ c ∈ (word ++ rest).head?, isBlank c = false := by
  obtain ⟨hnonempty, hunbroken⟩ := hword
  obtain ⟨c, others, rfl⟩ := List.exists_cons_of_ne_nil hnonempty
  rintro d ⟨⟩
  exact hunbroken c List.mem_cons_self

/-- A text that ends with a word does not end with white space. -/
theorem IsWord.getLast {word : Text} (hword : IsWord word) (before : Text) :
    ∀ c ∈ (before ++ word).getLast?, isBlank c = false := by
  intro c hc
  rw [List.getLast?_append_of_ne_nil _ hword.1] at hc
  exact hword.2 c (List.mem_of_mem_getLast? hc)

theorem trimStart_append {blank text : Text} (hblank : ∀ c ∈ blank, isBlank c = true)
    (hfirst : ∀ c ∈ text.head?, isBlank c = false) : trimStart (blank ++ text) = text :=
  dropWhile_word hblank hfirst

theorem trimEnd_eq_nil {blank : Text} (hblank : ∀ c ∈ blank, isBlank c = true) :
    trimEnd blank = [] := by
  rw [← List.nil_append blank, trimEnd_append_blank (by simp) hblank]

/-- A text is blank, or it has a first word. -/
theorem blank_or_word (text : Text) :
    (∀ c ∈ text, isBlank c = true) ∨
      ∃ blank word rest : Text, (∀ c ∈ blank, isBlank c = true) ∧ IsWord word ∧
        (∀ c ∈ rest.head?, isBlank c = true) ∧ text = blank ++ (word ++ rest) := by
  have hwhole := List.takeWhile_append_dropWhile (p := isBlank) (l := text)
  have hblank : ∀ c ∈ text.takeWhile isBlank, isBlank c = true :=
    List.all_eq_true.mp List.all_takeWhile
  cases hstart : text.dropWhile isBlank with
  | nil =>
    rw [hstart, List.append_nil] at hwhole
    exact .inl (hwhole ▸ hblank)
  | cons c behind =>
    have hfirst : isBlank c = false := head?_dropWhile c (by rw [hstart]; rfl)
    refine .inr ⟨_, (c :: behind).takeWhile (!isBlank ·), (c :: behind).dropWhile (!isBlank ·),
      hblank, ⟨by simp [hfirst], fun d hd => ?_⟩, fun d hd => ?_, ?_⟩
    · simpa using List.all_eq_true.mp List.all_takeWhile d hd
    · simpa using head?_dropWhile d hd
    · rw [List.takeWhile_append_dropWhile, ← hstart, hwhole]

/-- It does not matter which end is trimmed first. -/
theorem trimStart_trimEnd (text : Text) : trimStart (trimEnd text) = trim text := by
  rcases blank_or_word text with hblank | ⟨blank, word, rest, hblank, hword, -, rfl⟩
  · have hstart : trimStart text = [] := by
      rw [← List.append_nil text, trimStart_append hblank (by simp)]
    rw [trim, hstart, trimEnd_eq_nil hblank]
    rfl
  · have hend := trimEnd_append (hword.getLast blank) rest
    rw [List.append_assoc, List.append_assoc] at hend
    rw [hend, trim, trimStart_append hblank (hword.head rest),
      trimStart_append hblank (hword.head rest.trimEnd)]
    exact (trimEnd_append (hword.getLast []) rest).symm

/-- Trimming at the end changes the start only where nothing is left. -/
theorem head?_trimEnd {text : Text} : ∀ c ∈ (trimEnd text).head?, c ∈ text.head? := by
  obtain ⟨rest, htext⟩ := trimEnd_prefix text
  intro c hc
  obtain ⟨others, hcons⟩ := List.head?_eq_some_iff.mp hc
  rw [← htext, hcons]
  rfl

end ExporterAudit.Text
