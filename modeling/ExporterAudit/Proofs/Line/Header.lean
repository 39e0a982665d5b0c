import ExporterAudit.Line
import ExporterAudit.Proofs.Success
import ExporterAudit.Proofs.Text.Lines

/-!
The grammar of header lines. A header starts with a hash and a keyword, with or without white space
around the hash. With nothing but white space behind the keyword it has no metric name. With a word
behind white space it is a header of that name, unless a line end stands in the text behind the word.
-/

namespace ExporterAudit.Line

/-- White space, at least one character of it. -/
def IsGap (gap : Text) : Prop :=
  gap ≠ [] ∧ ∀ c ∈ gap, Text.isBlank c = true

theorem IsGap.head {gap : Text} (hgap : IsGap gap) (rest : Text) :
    ∃ c ∈ (gap ++ rest).head?, Text.isBlank c = true := by
  obtain ⟨hnonempty, hblank⟩ := hgap
  obtain ⟨c, others, rfl⟩ := List.exists_cons_of_ne_nil hnonempty
  exact ⟨c, rfl, hblank c List.mem_cons_self⟩

theorem isWord_keyword (keyword : Keyword) : Text.IsWord keyword.name := by
  cases keyword <;> exact ⟨by decide, by decide⟩

theorem keyword?_append (keyword : Keyword) (rest : Text) :
    keyword? (keyword.name ++ rest) = some (keyword, rest) := by
  cases keyword <;> rfl

/-- A keyword is only found where it stands, in front of everything else. -/
theorem eq_append_of_keyword? {keyword : Keyword} {text rest : Text}
    (hkeyword : keyword? text = some (keyword, rest)) : text = keyword.name ++ rest := by
  unfold keyword? at hkeyword
  split at hkeyword
  · next hhelp =>
    cases hkeyword
    exact Text.dropPrefix?_eq_some_iff.mp hhelp
  · obtain ⟨behind, htype, hpair⟩ := Option.map_eq_some_iff.mp hkeyword
    cases hpair
    exact Text.dropPrefix?_eq_some_iff.mp htype

/-! ### The mark -/

/-- The line starts with a hash and the keyword, with or without white space around the hash, and
`rest` is what stands behind the keyword. -/
def IsMarked (keyword : Keyword) (line rest : Text) : Prop :=
  ∃ lead gap : Text, (∀ c ∈ lead, Text.isBlank c = true) ∧ (∀ c ∈ gap, Text.isBlank c = true) ∧
    line = lead ++ '#' :: (gap ++ (keyword.name ++ rest))

namespace IsMarked

variable {keyword : Keyword} {line rest : Text}

theorem trimStart_eq (hmarked : IsMarked keyword line rest) :
    ∃ gap : Text, (∀ c ∈ gap, Text.isBlank c = true) ∧
      line.trimStart = '#' :: (gap ++ (keyword.name ++ rest)) := by
  obtain ⟨lead, gap, hlead, hgap, rfl⟩ := hmarked
  refine ⟨gap, hgap, Text.trimStart_append hlead ?_⟩
  rintro c ⟨⟩
  decide

/-- Trimming the line shortens what stands behind the keyword and nothing else. -/
theorem trim_eq (hmarked : IsMarked keyword line rest) :
    ∃ gap : Text, (∀ c ∈ gap, Text.isBlank c = true) ∧
      line.trim = '#' :: (gap ++ (keyword.name ++ rest.trimEnd)) := by
  obtain ⟨gap, hgap, hstart⟩ := hmarked.trimStart_eq
  have hlast := (isWord_keyword keyword).getLast ('#' :: gap)
  have hsplit : '#' :: (gap ++ (keyword.name ++ rest)) = '#' :: gap ++ keyword.name ++ rest := by
    simp
  refine ⟨gap, hgap, ?_⟩
  rw [Text.trim, hstart, hsplit, Text.trimEnd_append hlast]
  simp

theorem hash (hmarked : IsMarked keyword line rest) : '#' ∈ line.trim.head? := by
  obtain ⟨gap, -, htrim⟩ := hmarked.trim_eq
  rw [htrim]
  rfl

end IsMarked

theorem keyword?_trimStart {gap : Text} (hgap : ∀ c ∈ gap, Text.isBlank c = true)
    (keyword : Keyword) (rest : Text) :
    keyword? (Text.trimStart (gap ++ (keyword.name ++ rest))) = some (keyword, rest) := by
  rw [Text.trimStart_append hgap ((isWord_keyword keyword).head rest), keyword?_append]

/-- A line has one mark at most. -/
theorem IsMarked.unique {keyword other : Keyword} {line rest behind : Text}
    (hmarked : IsMarked keyword line rest) (hother : IsMarked other line behind) :
    keyword = other ∧ rest = behind := by
  obtain ⟨gap, hgap, hstart⟩ := hmarked.trimStart_eq
  obtain ⟨blank, hblank, hagain⟩ := hother.trimStart_eq
  have hsame : gap ++ (keyword.name ++ rest) = blank ++ (other.name ++ behind) :=
    (List.cons.inj (hstart.symm.trans hagain)).2
  have hkeyword := keyword?_trimStart hgap keyword rest
  rw [hsame, keyword?_trimStart hblank other behind] at hkeyword
  cases hkeyword
  exact ⟨rfl, rfl⟩

/-- From the parts of a trimmed line back to the line with its white space. -/
theorem isMarked_of_trimStart {line behindHash rest trail : Text} {keyword : Keyword}
    (hstart : line.trimStart = '#' :: (behindHash ++ trail))
    (hkeyword : behindHash.trimStart = keyword.name ++ rest) :
    IsMarked keyword line (rest ++ trail) := by
  refine ⟨line.takeWhile Text.isBlank, behindHash.takeWhile Text.isBlank,
    List.all_eq_true.mp List.all_takeWhile, List.all_eq_true.mp List.all_takeWhile, ?_⟩
  have hbehind := List.takeWhile_append_dropWhile (p := Text.isBlank) (l := behindHash)
  rw [Text.trimStart] at hkeyword hstart
  rw [← List.append_assoc keyword.name, ← hkeyword, ← List.append_assoc, hbehind, ← hstart,
    List.takeWhile_append_dropWhile]

/-! ### Taking a header apart -/

/-- Only a line with a mark is a header. -/
theorem exists_isMarked_of_header? {line : Text} {header : Header}
    (hheader : header? line.trim = some header) : ∃ rest, IsMarked header.keyword line rest := by
  obtain ⟨trail, htrail⟩ := Text.trimEnd_prefix line.trimStart
  rw [← Text.trim] at htrail
  unfold header? at hheader
  split at hheader
  · next behindHash htrim =>
    obtain ⟨⟨keyword, rest⟩, hkeyword, hwords⟩ := Option.bind_eq_some_iff.mp hheader
    have hmarked : IsMarked keyword line (rest ++ trail) :=
      isMarked_of_trimStart (by rw [← htrail, htrim]; rfl) (eq_append_of_keyword? hkeyword)
    have hsame : header.keyword = keyword := by
      dsimp only at hwords
      split at hwords
      · cases hwords
        rfl
      · split at hwords
        · split at hwords
          · cases hwords
          · cases hwords
            rfl
        · cases hwords
    exact ⟨_, hsame ▸ hmarked⟩
  · cases hheader

namespace IsMarked

variable {keyword : Keyword} {line rest : Text}

/-- Only white space behind the keyword: there is no metric name. -/
theorem header?_of_blank (hmarked : IsMarked keyword line rest)
    (hblank : ∀ c ∈ rest, Text.isBlank c = true) :
    header? line.trim = some { keyword, name := none, text := [] } := by
  obtain ⟨gap, hgap, htrim⟩ := hmarked.trim_eq
  rw [htrim, Text.trimEnd_eq_nil hblank, header?, keyword?_trimStart hgap]
  rfl

/-- A keyword that is not a word of its own is none. -/
theorem header?_of_glued (hmarked : IsMarked keyword line rest)
    (hglued : ∃ c ∈ rest.head?, Text.isBlank c = false) : header? line.trim = none := by
  obtain ⟨gap, hgap, htrim⟩ := hmarked.trim_eq
  obtain ⟨c, hc, hgraphic⟩ := hglued
  obtain ⟨others, rfl⟩ := List.head?_eq_some_iff.mp hc
  have hlast : ∀ d ∈ [c].getLast?, Text.isBlank d = false := by
    rintro d ⟨⟩
    exact hgraphic
  have hend : Text.trimEnd (c :: others) = c :: Text.trimEnd others :=
    Text.trimEnd_append hlast others
  rw [htrim, hend, header?, keyword?_trimStart hgap]
  simp [hgraphic]

end IsMarked

/-- The line has the mark of the keyword, the name behind white space, and the tail behind the
name. -/
def IsNamed (keyword : Keyword) (line name tail : Text) : Prop :=
  Text.IsWord name ∧ (∀ c ∈ tail.head?, Text.isBlank c = true) ∧
    ∃ gap, IsGap gap ∧ IsMarked keyword line (gap ++ (name ++ tail))

/-- A header with a name is a marked line with something behind the keyword. -/
theorem IsNamed.exists_isMarked {keyword : Keyword} {line name tail : Text}
    (hnamed : IsNamed keyword line name tail) : ∃ rest, IsMarked keyword line rest := by
  obtain ⟨-, -, gap, -, hmarked⟩ := hnamed
  exact ⟨_, hmarked⟩

/-- What may stand behind a keyword: white space only, a character glued to it, or a name behind
white space. -/
theorem IsMarked.blank_or_glued_or_named {keyword : Keyword} {line rest : Text}
    (hmarked : IsMarked keyword line rest) :
    (∀ c ∈ rest, Text.isBlank c = true) ∨ (∃ c ∈ rest.head?, Text.isBlank c = false) ∨
      ∃ name tail, IsNamed keyword line name tail := by
  rcases Text.blank_or_word rest with hblank | ⟨gap, name, tail, hgap, hname, htail, rfl⟩
  · exact .inl hblank
  · by_cases hnone : gap = []
    · subst hnone
      obtain ⟨c, others, rfl⟩ := List.exists_cons_of_ne_nil hname.1
      exact .inr (.inl ⟨c, rfl, hname.2 c List.mem_cons_self⟩)
    · exact .inr (.inr ⟨name, tail, hname, htail, gap, ⟨hnone, hgap⟩, hmarked⟩)

/-- The text of a header is its tail without the white space around it, and no line end stands in
it. -/
theorem IsNamed.header?_eq {keyword : Keyword} {line name tail : Text}
    (hnamed : IsNamed keyword line name tail) :
    header? line.trim =
      if tail.trim.any Text.isLineEnd = true then none
      else some { keyword, name := some name, text := tail.trim } := by
  obtain ⟨hname, htail, gap, hgap, hmarked⟩ := hnamed
  obtain ⟨mark, hmark, htrim⟩ := hmarked.trim_eq
  have hend : (gap ++ (name ++ tail)).trimEnd = gap ++ (name ++ tail.trimEnd) := by
    have happend := Text.trimEnd_append (hname.getLast gap) tail
    rwa [List.append_assoc, List.append_assoc] at happend
  have hwords : Text.trimStart (gap ++ (name ++ tail.trimEnd)) = name ++ tail.trimEnd :=
    Text.trimStart_append hgap.2 (hname.head _)
  have hunbroken : ∀ c ∈ name, (!Text.isBlank c) = true := fun c hmem => by
    rw [hname.2 c hmem]
    rfl
  have hstop : ∀ c ∈ tail.trimEnd.head?, (!Text.isBlank c) = false := fun c hc => by
    rw [htail c (Text.head?_trimEnd c hc)]
    rfl
  obtain ⟨c, hfirst, hblank⟩ := hgap.head (name ++ tail.trimEnd)
  obtain ⟨others, hcons⟩ := List.head?_eq_some_iff.mp hfirst
  rw [htrim, hend, header?, keyword?_trimStart hmark]
  rw [hcons] at hwords ⊢
  simp only [Option.bind_eq_bind, Option.bind_some, hblank, ↓reduceIte, hwords,
    Text.takeWhile_word hunbroken hstop, Text.dropWhile_word hunbroken hstop, Text.trimStart_trimEnd]
  rfl

/-! ### Reading a header -/

theorem IsMarked.read_eq {keyword : Keyword} {line rest : Text}
    (hmarked : IsMarked keyword line rest) : read line = readComment line.trim := by
  obtain ⟨gap, -, htrim⟩ := hmarked.trim_eq
  rw [read, htrim]
  rfl

theorem IsNamed.read_eq {keyword : Keyword} {line name tail : Text}
    (hnamed : IsNamed keyword line name tail) : read line = readComment line.trim := by
  obtain ⟨rest, hmarked⟩ := hnamed.exists_isMarked
  exact hmarked.read_eq

/-- A keyword alone is an error, not a comment. -/
theorem IsMarked.read_of_blank {keyword : Keyword} {line rest : Text}
    (hmarked : IsMarked keyword line rest) (hblank : ∀ c ∈ rest, Text.isBlank c = true) :
    read line = .error (.malformedLine line.trim (keyword.name ++ " without metric name")) := by
  rw [hmarked.read_eq, readComment, hmarked.header?_of_blank hblank]

/-- A longer word that starts like a keyword is none, so the line is a comment. -/
theorem IsMarked.read_of_glued {keyword : Keyword} {line rest : Text}
    (hmarked : IsMarked keyword line rest) (hglued : ∃ c ∈ rest.head?, Text.isBlank c = false) :
    ∃ comment, read line = .ok (.comment comment) := by
  rw [hmarked.read_eq, readComment, hmarked.header?_of_glued hglued]
  exact ⟨_, rfl⟩

/-- A header with a name is read as its keyword says, or as a comment if its text holds a line
end. -/
theorem IsNamed.read_help {line name tail : Text} (hnamed : IsNamed .help line name tail) :
    read line =
      if tail.trim.any Text.isLineEnd = true then .ok (.comment (Text.trim (line.trim.drop 1)))
      else .ok (.help name (LabelBlock.unescape tail.trim)) := by
  rw [hnamed.read_eq, readComment, hnamed.header?_eq]
  split_ifs <;> rfl

/-- A line with the mark of a help header is refused only for want of a name. -/
theorem IsMarked.read_eq_error_iff {line rest : Text} {failure : Failure}
    (hmarked : IsMarked .help line rest) :
    read line = .error failure ↔
      (∀ c ∈ rest, Text.isBlank c = true) ∧
        failure = .malformedLine line.trim "HELP without metric name" := by
  constructor
  · intro hread
    rcases hmarked.blank_or_glued_or_named with hblank | hglued | ⟨name, tail, hnamed⟩
    · rw [hmarked.read_of_blank hblank] at hread
      cases hread
      exact ⟨hblank, rfl⟩
    · obtain ⟨comment, hcomment⟩ := hmarked.read_of_glued hglued
      rw [hcomment] at hread
      cases hread
    · rw [hnamed.read_help] at hread
      split_ifs at hread
  · rintro ⟨hblank, rfl⟩
    exact hmarked.read_of_blank hblank

/-- A line without a hash in front is no header, whatever else it is. -/
theorem readSample_ne_help (line trimmed name text : Text) :
    readSample line trimmed ≠ .ok (.help name text) := by
  unfold readSample
  split
  · exact fun hread => nomatch hread
  · split
    · exact fun hread => nomatch hread
    · intro hread
      obtain ⟨labels, -, hline⟩ := bind_eq_ok_iff.mp hread
      cases hline

/-- Help comes from headers with its keyword only. -/
theorem exists_header?_of_read_help {line name text : Text} (hread : read line = .ok (.help name text)) :
    ∃ header, header? line.trim = some header ∧ header.keyword = .help := by
  unfold read at hread
  split at hread
  · cases hread
  · next htrim =>
    rw [htrim]
    unfold readComment at hread
    split at hread
    · cases hread
    · cases hread
    · next hheader => exact ⟨_, hheader, rfl⟩
    · split at hread <;> cases hread
  · exact absurd hread (readSample_ne_help _ _ _ _)

/-- The grammar of help headers: the name behind the mark, and a tail whose text has no line end in
it and is read without its escapes. -/
theorem read_eq_help_iff {line name text : Text} :
    read line = .ok (.help name text) ↔
      ∃ tail, IsNamed .help line name tail ∧ tail.trim.any Text.isLineEnd = false ∧
        text = LabelBlock.unescape tail.trim := by
  constructor
  · intro hread
    obtain ⟨header, hheader, hkeyword⟩ := exists_header?_of_read_help hread
    obtain ⟨rest, hmarked⟩ := exists_isMarked_of_header? hheader
    rw [hkeyword] at hmarked
    rcases hmarked.blank_or_glued_or_named with hblank | hglued | ⟨word, tail, hnamed⟩
    · rw [hmarked.read_of_blank hblank] at hread
      cases hread
    · obtain ⟨comment, hcomment⟩ := hmarked.read_of_glued hglued
      rw [hcomment] at hread
      cases hread
    · rw [hnamed.read_help] at hread
      split_ifs at hread with hlineEnd
      · cases hread
      · cases hread
        exact ⟨tail, hnamed, Bool.not_eq_true _ ▸ hlineEnd, rfl⟩
  · rintro ⟨tail, hnamed, hlineEnd, rfl⟩
    rw [hnamed.read_help, hlineEnd]
    rfl

end ExporterAudit.Line
