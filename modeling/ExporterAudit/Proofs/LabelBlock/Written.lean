import ExporterAudit.Proofs.Entries.Order
import ExporterAudit.Proofs.LabelBlock.Scan

/-!
Label blocks as exporters write them. A value stands in double quotes with its quotes, backslashes
and line feeds escaped, and every text can be written so; a block that is written this way is read
back as the labels it was written from.
-/

namespace ExporterAudit.LabelBlock

/-- A backslash stands before a quote, a backslash and the `n` of a line feed. -/
def escapeChar (c : Char) : Text :=
  if c = '\\' then ['\\', '\\'] else if c = '"' then ['\\', '"'] else if c = '\n' then ['\\', 'n']
  else [c]

def escape (text : Text) : Text :=
  text.flatMap escapeChar

/-- A character is written as itself or as an escape of its own. -/
theorem escapeChar_cases (c : Char) :
    (c ≠ '\\' ∧ c ≠ '"' ∧ c ≠ '\n' ∧ escapeChar c = [c]) ∨
      ∃ letter, escapeChar c = ['\\', letter] ∧ Text.isLineEnd letter = false ∧
        (if letter = 'n' then '\n' else letter) = c := by
  unfold escapeChar
  by_cases hslash : c = '\\'
  · exact .inr ⟨'\\', by simp [hslash], by decide, hslash.symm⟩
  by_cases hquote : c = '"'
  · exact .inr ⟨'"', by simp [hquote], by decide, hquote.symm⟩
  by_cases hfeed : c = '\n'
  · exact .inr ⟨'n', by simp [hfeed], by decide, hfeed.symm⟩
  exact .inl ⟨hslash, hquote, hfeed, by simp [hslash, hquote, hfeed]⟩

theorem escape_cons (c : Char) (rest : Text) : escape (c :: rest) = escapeChar c ++ escape rest :=
  List.flatMap_cons

/-- A character is written as itself, or as a backslash and the letter that stands for it. -/
def IsWriting (c : Char) (written : Text) : Prop :=
  (c ≠ '\\' ∧ written = [c]) ∨
    ∃ letter, written = ['\\', letter] ∧ Text.isLineEnd letter = false ∧
      (if letter = 'n' then '\n' else letter) = c

/-- Unescaping undoes every way to write a text character by character. -/
theorem unescape_flatMap {write : Char → Text} (hwrite : ∀ c, IsWriting c (write c)) (text : Text) :
    unescape (text.flatMap write) = text := by
  induction text with
  | nil => rfl
  | cons c rest ih =>
    rw [List.flatMap_cons]
    rcases hwrite c with ⟨hslash, hplain⟩ | ⟨letter, hescaped, hlineEnd, hletter⟩
    · rw [hplain, List.singleton_append, unescape, ih]
      rintro - - hcons -
      exact hslash hcons
    · rw [hescaped, List.cons_append, List.singleton_append, unescape, hlineEnd, ih, hletter]
      rfl

/-- Unescaping undoes escaping, whatever the text. -/
theorem unescape_escape (text : Text) : unescape (escape text) = text := by
  refine unescape_flatMap (fun c => ?_) text
  rcases escapeChar_cases c with ⟨hslash, -, -, hplain⟩ | hescaped
  · exact .inl ⟨hslash, hplain⟩
  · exact .inr hescaped

/-- No line feed is left in an escaped text. -/
theorem lineFeed_not_mem_escape (text : Text) : '\n' ∉ escape text := by
  rw [escape, List.mem_flatMap]
  rintro ⟨c, -, hmem⟩
  rcases escapeChar_cases c with ⟨-, -, hfeed, hplain⟩ | ⟨letter, hescaped, hlineEnd, -⟩
  · rw [hplain, List.mem_singleton] at hmem
    exact hfeed hmem.symm
  · rw [hescaped, List.mem_cons, List.mem_singleton] at hmem
    rcases hmem with hmem | rfl
    · exact absurd hmem (by decide)
    · exact absurd hlineEnd (by decide)

open QuoteState in
/-- Inside quotes a reader passes an escaped text and stays inside. -/
theorem passes_escape {meets : QuoteState → Char → Prop} (hinside : ∀ c, ¬ meets .inside c)
    (hescaped : ∀ c, Text.isLineEnd c = false → ¬ meets .escaped c) (text : Text) :
    Avoids meets .inside (escape text) ∧ QuoteState.after .inside (escape text) = .inside := by
  induction text with
  | nil => exact ⟨trivial, rfl⟩
  | cons c rest ih =>
    rw [escape_cons, avoids_append, after_append]
    have hstep : Avoids meets .inside (escapeChar c) ∧
        QuoteState.after .inside (escapeChar c) = .inside := by
      rcases escapeChar_cases c with ⟨hslash, hquote, -, hplain⟩ | ⟨letter, hwritten, hlineEnd, -⟩
      · rw [hplain]
        exact ⟨⟨hinside c, trivial⟩, by simp [next, hslash, hquote]⟩
      · rw [hwritten]
        exact ⟨⟨hinside _, hescaped letter hlineEnd, trivial⟩, rfl⟩
    rw [hstep.2]
    exact ⟨⟨hstep.1, ih.1⟩, ih.2⟩

/-! ### Label names -/

def isNameStart (c : Char) : Bool :=
  c.isAlpha || c == '_'

def isNameChar (c : Char) : Bool :=
  c.isAlphanum || c == '_'

/-- A name that can be written: a letter or underscore, then letters, digits and underscores. -/
structure IsName (name : Text) : Prop where
  starts : ∃ c ∈ name.head?, isNameStart c = true
  continues : ∀ c ∈ name, isNameChar c = true

instance (name : Text) : Decidable (IsName name) :=
  decidable_of_iff (name.head?.any isNameStart = true ∧ name.all isNameChar = true) <| by
    simp only [Option.any_eq_true, List.all_eq_true]
    exact ⟨fun h => ⟨h.1, h.2⟩, fun h => ⟨h.starts, h.continues⟩⟩

theorem isBlank_of_isNameChar {c : Char} (hname : isNameChar c = true) : Text.isBlank c = false := by
  rcases Bool.or_eq_true_iff.mp hname with halphanum | hunderscore
  · exact Text.isBlank_of_isAlphanum halphanum
  · rw [beq_iff_eq.mp hunderscore]
    decide

namespace IsName

variable {name : Text}

/-- No character that means something in a block stands in a name. -/
theorem not_mem (hname : IsName name) {c : Char} (hspecial : isNameChar c = false) : c ∉ name := by
  intro hmem
  rw [hname.continues c hmem] at hspecial
  cases hspecial

theorem unbroken (hname : IsName name) : name.Unbroken :=
  fun c hmem => isBlank_of_isNameChar (hname.continues c hmem)

/-- A name is no canonical index, so a new one goes behind the names before it. -/
theorem index?_eq_none (hname : IsName name) : Entries.index? name = none := by
  obtain ⟨c, hfirst, hstart⟩ := hname.starts
  refine if_neg fun ⟨_, hdigits, _⟩ => ?_
  have hdigit := List.all_eq_true.mp hdigits c (List.mem_of_mem_head? hfirst)
  simp [Binary64.isDigit, Char.le_def, UInt32.le_iff_toNat_le] at hdigit
  rcases Bool.or_eq_true_iff.mp hstart with hletter | hunderscore
  · delta Char.isAlpha Char.isUpper Char.isLower at hletter
    simp [UInt32.le_iff_toNat_le] at hletter
    omega
  · rw [beq_iff_eq.mp hunderscore] at hdigit
    exact absurd hdigit (by decide)

end IsName

/-! ### Blocks -/

/-- A label as an exporter writes it. -/
def entryText (entry : Text × Text) : Text :=
  entry.1 ++ '=' :: '"' :: (escape entry.2 ++ ['"'])

/-- Labels as an exporter writes them between braces. -/
def blockText (labels : Labels) : Text :=
  Text.join "," (labels.entries.map entryText)

open QuoteState in
/-- A written label ends outside quotes, and a walk that is not stopped by names, by the equals sign
or by what is quoted passes it. -/
theorem passes_entryText (meets : QuoteState → Char → Prop)
    (houtside : ∀ c, meets .outside c → isNameChar c = false ∧ c ≠ '=' ∧ c ≠ '"')
    (hinside : ∀ c, ¬ meets .inside c)
    (hescaped : ∀ c, Text.isLineEnd c = false → ¬ meets .escaped c)
    {entry : Text × Text} (hname : IsName entry.1) :
    Avoids meets .outside (entryText entry) ∧
      QuoteState.after .outside (entryText entry) = .outside := by
  obtain ⟨hnamePasses, hnameEnds⟩ := avoids_outside (hname.not_mem (by decide : isNameChar '"' = false))
    (fun c hmem hmeets => hname.not_mem (houtside c hmeets).1 hmem)
  obtain ⟨hvaluePasses, hvalueEnds⟩ := passes_escape hinside hescaped entry.2
  have hequals : ¬ meets .outside '=' := fun h => (houtside _ h).2.1 rfl
  have hquote : ¬ meets .outside '"' := fun h => (houtside _ h).2.2 rfl
  rw [entryText, avoids_append, after_append, hnameEnds]
  change (_ ∧ ¬ meets .outside '=' ∧ ¬ meets .outside '"' ∧ Avoids meets .inside _) ∧
    QuoteState.after .inside _ = .outside
  rw [avoids_append, after_append, hvalueEnds]
  exact ⟨⟨hnamePasses, hequals, hquote, hvaluePasses, hinside _, trivial⟩, rfl⟩

/-- A written label is one piece of its block. -/
theorem isPiece_entryText {entry : Text × Text} (hname : IsName entry.1) :
    IsPiece (entryText entry) := by
  obtain ⟨c, hfirst, -⟩ := hname.starts
  have hstops := passes_entryText QuoteState.Stops
    (by rintro c (⟨-, rfl⟩ | ⟨hstate, -⟩) <;> trivial) (by simp [QuoteState.Stops])
    (by simp [QuoteState.Stops]) hname
  have hcuts := passes_entryText QuoteState.Cuts
    (by rintro c ⟨-, rfl⟩; decide) (by simp [QuoteState.Cuts]) (by simp [QuoteState.Cuts]) hname
  refine ⟨⟨hcuts.1, hstops.2⟩, hstops.1, by simp [entryText], Text.trim_eq_self ?_ ?_⟩
  · intro d hd
    rw [entryText, List.head?_append, hfirst, Option.some_or] at hd
    cases hd
    exact hname.unbroken c (List.mem_of_mem_head? hfirst)
  · intro d hd
    rw [entryText, ← List.cons_append, ← List.cons_append, ← List.append_assoc,
      List.getLast?_concat] at hd
    cases hd
    decide

/-- Any value can be written in quotes and is read back. -/
theorem valueOf_quoted (value : Text) : valueOf ('"' :: (escape value ++ ['"'])) = value := by
  have hinside : unquote? ('"' :: (escape value ++ ['"'])) = some (escape value) := by
    simp [unquote?]
  rw [valueOf, hinside]
  exact unescape_escape value

/-- A name that is not assigned yet gets its value behind the others. -/
theorem entries_assign {labels : Labels} {name : Text} (hname : IsName name)
    (hreserved : name ≠ Labels.reservedName) (hnew : name ∉ labels.entries.map Prod.fst)
    (value : Text) : (labels.assign name value).entries = labels.entries ++ [(name, value)] := by
  rw [Labels.assign, if_neg hreserved]
  apply Entries.assign_eq_append hnew
  intro other _
  rw [Entries.precedes, hname.index?_eq_none]

/-- Labels that can be written: each name is one, and none is reserved. -/
def Writable (labels : Labels) : Prop :=
  ∀ entry ∈ labels.entries, IsName entry.1 ∧ entry.1 ≠ Labels.reservedName

instance (labels : Labels) : Decidable (Writable labels) :=
  inferInstanceAs (Decidable (∀ entry ∈ labels.entries, _))

theorem addPair_entryText (block : Text) (labels : Labels) {entry : Text × Text}
    (hname : IsName entry.1) :
    addPair block labels (entryText entry) = .ok (labels.assign entry.1 entry.2) := by
  have hsplit : Text.splitFirst? '=' (entryText entry) =
      some (entry.1, '"' :: (escape entry.2 ++ ['"'])) :=
    Text.splitFirst?_append (hname.not_mem (by decide)) _
  have hvalue : Text.trim ('"' :: (escape entry.2 ++ ['"'])) = '"' :: (escape entry.2 ++ ['"']) := by
    refine Text.trim_eq_self (fun c hc => ?_) (fun c hc => ?_)
    · cases hc
      decide
    · rw [← List.cons_append, List.getLast?_concat] at hc
      cases hc
      decide
  rw [addPair, hsplit]
  simp only [Text.trim_of_unbroken hname.unbroken, hvalue, valueOf_quoted]

/-- Pairs with new names are added one behind the other. -/
theorem foldlM_addPair (block : Text) {labels : Labels} {later : List (Text × Text)}
    (hnames : ∀ entry ∈ later, IsName entry.1 ∧ entry.1 ≠ Labels.reservedName)
    (hdistinct : ((labels.entries ++ later).map Prod.fst).Nodup) :
    (later.map entryText).foldlM (addPair block) labels = .ok ⟨labels.entries ++ later, hdistinct⟩ := by
  induction later generalizing labels with
  | nil => simp [pure, Except.pure]
  | cons entry rest ih =>
    obtain ⟨hname, hreserved⟩ := hnames entry List.mem_cons_self
    have hnew : entry.1 ∉ labels.entries.map Prod.fst := by
      rw [List.map_append, List.map_cons, List.nodup_append] at hdistinct
      exact fun hmem => hdistinct.2.2 _ hmem _ List.mem_cons_self rfl
    have hassign := entries_assign hname hreserved hnew entry.2
    have hlater : (((labels.assign entry.1 entry.2).entries ++ rest).map Prod.fst).Nodup := by
      simpa [hassign] using hdistinct
    have hrest := ih (fun other hmem => hnames other (List.mem_cons_of_mem entry hmem)) hlater
    rw [List.map_cons, List.foldlM_cons, addPair_entryText block labels hname]
    refine hrest.trans ?_
    simp [hassign]

theorem Writable.isPiece {labels : Labels} (hwritable : Writable labels) :
    ∀ piece ∈ labels.entries.map entryText, IsPiece piece := by
  intro piece hmem
  obtain ⟨entry, hentry, rfl⟩ := List.mem_map.mp hmem
  exact isPiece_entryText (hwritable entry hentry).1

/-- A block is read back as the labels it was written from, in the same order. -/
theorem read_blockText {labels : Labels} (hwritable : Writable labels) :
    read (blockText labels) = .ok labels := by
  rw [read, blockText, pairs_join hwritable.isPiece]
  exact foldlM_addPair (blockText labels) hwritable (show ((Labels.empty.entries ++ _).map _).Nodup
    from labels.distinct)

/-- The closing brace behind a block ends it, whatever its values hold. -/
theorem close?_blockText {labels : Labels} (hwritable : Writable labels) (after : Text) :
    close? .outside (blockText labels ++ '}' :: after) = some (blockText labels, after) := by
  obtain ⟨hpasses, hends⟩ := passes_join hwritable.isPiece
  exact close?_append hpasses hends after

/-- A block stays on its line, since line feeds in values are escaped. -/
theorem lineFeed_not_mem_blockText {labels : Labels} (hwritable : Writable labels) :
    '\n' ∉ blockText labels := by
  intro hmem
  rcases Text.mem_join hmem with hcomma | ⟨piece, hpiece, hmem⟩
  · exact absurd hcomma (by decide)
  · obtain ⟨entry, hentry, rfl⟩ := List.mem_map.mp hpiece
    have hname := (hwritable entry hentry).1.not_mem (by decide : isNameChar '\n' = false)
    simp [entryText, hname, lineFeed_not_mem_escape] at hmem

end ExporterAudit.LabelBlock
