import ExporterAudit.Proofs.Line.Written
import ExporterAudit.Proofs.Success

/-!
The grammar of sample lines. A line comes apart into a name, a label block and a value token exactly
if it is these parts put together: the block between braces with its quotes closed, and the token
behind white space. Such a line is a sample exactly if its token stands for a number and its block
holds labels.
-/

namespace ExporterAudit

namespace LabelBlock

open QuoteState in
/-- A text that can stand between braces: no brace outside quotes and no spoilt escape is in it, and
its quotes are closed. -/
structure IsClosed (block : Text) : Prop where
  passes : Avoids Stops .outside block
  ends : QuoteState.after .outside block = .outside

end LabelBlock

namespace Line

/-- What is read is one word behind white space, with no white space in it or after it. -/
theorem lastWord?_eq_some_iff {text word : Text} :
    lastWord? text = some word ↔
      (word ≠ [] ∧ word.Unbroken) ∧ ∃ gap, IsGap gap ∧ text = gap ++ word := by
  have hunbroken : word.all (!Text.isBlank ·) = true ↔ word.Unbroken := by simp [Text.Unbroken]
  constructor
  · intro hword
    rw [lastWord?] at hword
    obtain ⟨⟨hshorter, hnonempty, hall⟩, hstart⟩ := Option.ite_none_right_eq_some.mp hword
    cases hstart
    refine ⟨⟨hnonempty, hunbroken.mp hall⟩, text.takeWhile Text.isBlank, ⟨?_, ?_⟩, ?_⟩
    · intro hnone
      have hwhole := List.takeWhile_append_dropWhile (p := Text.isBlank) (l := text)
      rw [hnone, List.nil_append] at hwhole
      rw [Text.trimStart, hwhole] at hshorter
      exact absurd hshorter (Nat.lt_irrefl _)
    · exact List.all_eq_true.mp List.all_takeWhile
    · exact List.takeWhile_append_dropWhile.symm
  · rintro ⟨⟨hnonempty, hword⟩, gap, ⟨hgap, hblank⟩, rfl⟩
    have hstart : Text.trimStart (gap ++ word) = word :=
      Text.trimStart_append hblank fun c hc => hword c (List.mem_of_mem_head? hc)
    have hshorter : word.length < (gap ++ word).length := by
      have hpos := List.length_pos_iff.mpr hgap
      rw [List.length_append]
      omega
    rw [lastWord?, hstart]
    exact if_pos ⟨hshorter, hnonempty, hunbroken.mpr hword⟩

namespace SampleParts

/-- A label block with its braces, nothing where there is none. -/
def braced : Option Text → Text
  | none => []
  | some block => '{' :: (block ++ ['}'])

theorem braced_some_append (block rest : Text) :
    braced (some block) ++ rest = '{' :: (block ++ '}' :: rest) := by
  simp [braced]

/-- The parts are what a line is put together from. -/
structure Spells (parts : SampleParts) (line : Text) : Prop where
  named : IsName parts.name
  closed : ∀ block ∈ parts.block, LabelBlock.IsClosed block
  token : parts.token ≠ [] ∧ parts.token.Unbroken
  spelled : ∃ gap, IsGap gap ∧ line = parts.name ++ (braced parts.block ++ (gap ++ parts.token))

end SampleParts

theorem isNameChar_of_isBlank {c : Char} (hblank : Text.isBlank c = true) : isNameChar c = false := by
  by_contra hname
  rw [isBlank_of_isNameChar (Bool.not_eq_false _ ▸ hname)] at hblank
  cases hblank

theorem isNameChar_of_isNameStart {c : Char} (hstart : isNameStart c = true) :
    isNameChar c = true := by
  rw [isNameStart, Bool.or_assoc, Bool.or_eq_true] at hstart
  rw [isNameChar, Bool.or_assoc, Bool.or_eq_true]
  exact hstart.imp_left fun halpha => by rw [Char.isAlphanum, halpha, Bool.true_or]

/-- The characters of a name at the start of a line are a name if the first may start one. -/
theorem isName_takeWhile {line : Text} {start : Char} (hfirst : line.head? = some start)
    (hstart : isNameStart start = true) : IsName (line.takeWhile isNameChar) := by
  refine ⟨⟨start, ?_, hstart⟩, List.all_eq_true.mp List.all_takeWhile⟩
  cases line with
  | nil => cases hfirst
  | cons c rest =>
    cases hfirst
    rw [List.takeWhile_cons_of_pos (isNameChar_of_isNameStart hstart)]
    rfl

open SampleParts

/-- A line comes apart into the parts that it is put together from. -/
theorem sampleParts?_eq_some_iff {line : Text} {parts : SampleParts} :
    sampleParts? line = some parts ↔ parts.Spells line := by
  constructor
  · intro hparts
    obtain ⟨start, hfirst, hguarded⟩ := Option.bind_eq_some_iff.mp hparts
    obtain ⟨⟨⟩, hstart, hrest⟩ := Option.bind_eq_some_iff.mp hguarded
    have hnamed := isName_takeWhile hfirst (by simpa [guard] using hstart)
    have hwhole : line = line.takeWhile isNameChar ++ line.dropWhile isNameChar :=
      List.takeWhile_append_dropWhile.symm
    split at hrest
    · next rest hbrace =>
      obtain ⟨⟨block, after⟩, hclose, hbehind⟩ := Option.bind_eq_some_iff.mp hrest
      obtain ⟨token, htoken, hdone⟩ := Option.bind_eq_some_iff.mp hbehind
      cases hdone
      obtain ⟨rfl, hpasses, hends⟩ := LabelBlock.close?_eq_some_iff.mp hclose
      obtain ⟨hword, gap, hgap, rfl⟩ := lastWord?_eq_some_iff.mp htoken
      refine ⟨hnamed, ?_, hword, gap, hgap, ?_⟩
      · rintro _ ⟨⟩
        exact ⟨hpasses, hends⟩
      · rw [braced_some_append, ← hbrace]
        exact hwhole
    · obtain ⟨token, htoken, hdone⟩ := Option.bind_eq_some_iff.mp hrest
      cases hdone
      obtain ⟨hword, gap, hgap, hafter⟩ := lastWord?_eq_some_iff.mp htoken
      refine ⟨hnamed, by simp, hword, gap, hgap, ?_⟩
      rw [braced, List.nil_append, ← hafter]
      exact hwhole
  · rintro ⟨hnamed, hclosed, hword, gap, hgap, rfl⟩
    obtain ⟨name, block, token⟩ := parts
    have htoken : lastWord? (gap ++ token) = some token :=
      lastWord?_eq_some_iff.mpr ⟨hword, gap, hgap, rfl⟩
    cases block with
    | none =>
      obtain ⟨c, hc, hblank⟩ := hgap.head token
      obtain ⟨rest, hcons⟩ := List.head?_eq_some_iff.mp hc
      rw [braced, List.nil_append]
      rw [hcons] at htoken ⊢
      rw [sampleParts?_append hnamed (isNameChar_of_isBlank hblank)]
      split
      · next hbrace =>
        cases hbrace
        exact absurd hblank (by decide)
      · rw [htoken]
        rfl
    | some block =>
      obtain ⟨hpasses, hends⟩ := hclosed block rfl
      have hclose := LabelBlock.close?_append hpasses hends (gap ++ token)
      rw [braced_some_append, sampleParts?_append hnamed (by decide)]
      simp [hclose, htoken]

/-- A line can be spelled from parts in one way only, since reading finds them all. -/
theorem SampleParts.Spells.unique {parts others : SampleParts} {line : Text}
    (hspells : parts.Spells line) (hothers : others.Spells line) : parts = others := by
  rw [← sampleParts?_eq_some_iff] at hspells hothers
  exact Option.some.inj (hspells.symm.trans hothers)

/-- A sample line starts with its name, so it cannot be taken for a header. -/
theorem SampleParts.Spells.head {parts : SampleParts} {line : Text} (hspells : parts.Spells line) :
    ∃ c ∈ line.head?, isNameStart c = true := by
  obtain ⟨⟨⟨c, hfirst, hstart⟩, -⟩, -, -, gap, -, rfl⟩ := hspells
  exact ⟨c, by rw [List.head?_append, hfirst, Option.some_or]; rfl, hstart⟩

/-- What a line with these parts is: refused if its token stands for no number, and else the sample
with the labels of its block. -/
theorem read_of_spells {line : Text} {parts : SampleParts} (hspells : parts.Spells line.trim) :
    read line =
      match value? parts.token with
      | none => .error (.malformedLine line ("invalid value '" ++ parts.token ++ "'"))
      | some value => (LabelBlock.read (parts.block.getD [])).map fun labels =>
          .sample { name := parts.name, labels, value } := by
  have hparts := sampleParts?_eq_some_iff.mpr hspells
  obtain ⟨c, hfirst, hstart⟩ := hspells.head
  rw [read]
  split
  · next hempty =>
    rw [hempty] at hfirst
    cases hfirst
  · next rest hcomment =>
    rw [hcomment] at hfirst
    cases hfirst
    exact absurd hstart (by decide)
  · rw [readSample, hparts]
    dsimp only
    cases value? parts.token with
    | none => rfl
    | some value => cases LabelBlock.read (parts.block.getD []) <;> rfl

/-- A sample line with this label block between its braces. -/
def HasBlock (line block : Text) : Prop :=
  ∃ parts : SampleParts, parts.Spells line.trim ∧ parts.block = some block

/-- A sample line with this value token. -/
def HasToken (line token : Text) : Prop :=
  ∃ parts : SampleParts, parts.Spells line.trim ∧ parts.token = token

theorem readComment_ne_sample (trimmed : Text) (sample : Sample) :
    readComment trimmed ≠ .ok (.sample sample) := by
  unfold readComment
  split
  · simp only [ne_eq, Except.ok.injEq, reduceCtorEq, not_false_eq_true]
  · simp only [ne_eq, reduceCtorEq, not_false_eq_true]
  · simp only [ne_eq, Except.ok.injEq, reduceCtorEq, not_false_eq_true]
  · split <;> simp only [ne_eq, Except.ok.injEq, reduceCtorEq, not_false_eq_true]

/-- A sample is read from a line that is put together from its name, its labels and its value. -/
theorem exists_spells_of_read {line : Text} {sample : Sample} (hread : read line = .ok (.sample sample)) :
    ∃ parts : SampleParts, parts.Spells line.trim ∧ parts.name = sample.name ∧
      value? parts.token = some sample.value ∧
      LabelBlock.read (parts.block.getD []) = .ok sample.labels := by
  have hsample : ∃ parts, sampleParts? line.trim = some parts := by
    unfold read at hread
    split at hread
    · cases hread
    · exact absurd hread (readComment_ne_sample _ _)
    · unfold readSample at hread
      split at hread
      · cases hread
      · next hparts => exact ⟨_, hparts⟩
  obtain ⟨parts, hparts⟩ := hsample
  have hspells := sampleParts?_eq_some_iff.mp hparts
  rw [read_of_spells hspells] at hread
  cases hvalue : value? parts.token with
  | none =>
    rw [hvalue] at hread
    cases hread
  | some value =>
    rw [hvalue] at hread
    obtain ⟨labels, hlabels, hline⟩ := map_eq_ok_iff.mp hread
    cases hline
    exact ⟨parts, hspells, rfl, hvalue, hlabels⟩

theorem HasToken.value?_eq {line token : Text} (hline : HasToken line token) {sample : Sample}
    (hread : read line = .ok (.sample sample)) : value? token = some sample.value := by
  obtain ⟨parts, hspells, rfl⟩ := hline
  obtain ⟨others, hothers, -, hvalue, -⟩ := exists_spells_of_read hread
  rwa [hspells.unique hothers]

end Line

end ExporterAudit
