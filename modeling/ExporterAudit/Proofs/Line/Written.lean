import ExporterAudit.Proofs.LabelBlock.Written
import ExporterAudit.Proofs.Line.Header

/-!
Lines as exporters write them: samples, type headers and help headers. Each is read back as what
it was written for.
-/

namespace ExporterAudit

namespace Line

/-- A metric name that can be written: a letter, underscore or colon, then digits as well. -/
structure IsName (name : Text) : Prop where
  starts : ∃ c ∈ name.head?, isNameStart c = true
  continues : ∀ c ∈ name, isNameChar c = true

instance (name : Text) : Decidable (IsName name) :=
  decidable_of_iff (name.head?.any isNameStart = true ∧ name.all isNameChar = true) <| by
    simp only [Option.any_eq_true, List.all_eq_true]
    exact ⟨fun h => ⟨h.1, h.2⟩, fun h => ⟨h.starts, h.continues⟩⟩

theorem isBlank_of_isNameChar {c : Char} (hname : isNameChar c = true) : Text.isBlank c = false := by
  rcases Bool.or_eq_true_iff.mp hname with halphanum | hcolon
  · rcases Bool.or_eq_true_iff.mp halphanum with halphanum | hunderscore
    · exact Text.isBlank_of_isAlphanum halphanum
    · rw [beq_iff_eq.mp hunderscore]
      decide
  · rw [beq_iff_eq.mp hcolon]
    decide

namespace IsName

variable {name : Text}

theorem ne_nil (hname : IsName name) : name ≠ [] := by
  obtain ⟨c, hfirst, -⟩ := hname.starts
  rintro rfl
  cases hfirst

theorem unbroken (hname : IsName name) : name.Unbroken :=
  fun c hmem => isBlank_of_isNameChar (hname.continues c hmem)

theorem isWord (hname : IsName name) : Text.IsWord name :=
  ⟨hname.ne_nil, hname.unbroken⟩

theorem lineFeed_not_mem (hname : IsName name) : '\n' ∉ name :=
  fun hmem => absurd (hname.continues _ hmem) (by decide)

end IsName

end Line

/-- A text without white space that stands for a number. -/
structure Token where
  text : Text
  value : Binary64
  unbroken : text.Unbroken
  reads : Line.value? text = some value

namespace Token

theorem ne_nil (token : Token) : token.text ≠ [] := by
  intro hempty
  have hreads := token.reads
  rw [hempty] at hreads
  cases hreads

theorem trimStart (token : Token) : Text.trimStart token.text = token.text :=
  Text.trimStart_eq_self fun c hc => token.unbroken c (List.mem_of_mem_head? hc)

theorem lineFeed_not_mem (token : Token) : '\n' ∉ token.text :=
  fun hmem => absurd (token.unbroken _ hmem) (by decide)

end Token

/-- A sample that can be written on a line. -/
structure WrittenSample where
  name : Text
  labels : Labels
  token : Token
  named : Line.IsName name
  writable : LabelBlock.Writable labels

namespace WrittenSample

def toSample (sample : WrittenSample) : Sample :=
  ⟨sample.name, sample.labels, sample.token.value⟩

/-- What stands between the name and the value. Where no label is given, `bare` leaves the braces
out. -/
def labelText (bare : Bool) (labels : Labels) : Text :=
  if bare = true ∧ labels = .empty then [] else '{' :: (LabelBlock.blockText labels ++ ['}'])

/-- The line of a sample. -/
def line (bare : Bool) (sample : WrittenSample) : Text :=
  sample.name ++ (labelText bare sample.labels ++ ' ' :: sample.token.text)

/-- A sample line ends with its value, so nothing is lost when the line is trimmed. -/
theorem getLast?_line (bare : Bool) (sample : WrittenSample) :
    ∀ c ∈ (sample.line bare).getLast?, Text.isBlank c = false := by
  intro c hc
  rw [line, List.getLast?_append_of_ne_nil _ (by simp), List.getLast?_append_of_ne_nil _ (by simp),
    ← List.singleton_append, List.getLast?_append_of_ne_nil _ sample.token.ne_nil] at hc
  exact sample.token.unbroken c (List.mem_of_mem_getLast? hc)

end WrittenSample

namespace Line

theorem lastWord?_token (token : Token) : lastWord? (' ' :: token.text) = some token.text := by
  have htrim : Text.trimStart (' ' :: token.text) = token.text :=
    (Text.trimStart_blank_cons (by decide) _).trans token.trimStart
  have hword : token.text.all (!Text.isBlank ·) = true :=
    List.all_eq_true.mpr fun c hmem => by simp [token.unbroken c hmem]
  rw [lastWord?, htrim]
  exact if_pos ⟨Nat.lt_succ_self _, token.ne_nil, hword⟩

/-- A sample line comes apart into its name and what follows. -/
theorem sampleParts?_append {name : Text} (hname : IsName name) {c : Char}
    (hends : isNameChar c = false) (rest : Text) :
    sampleParts? (name ++ c :: rest) =
      match c :: rest with
      | '{' :: rest => do
        let (block, after) ← LabelBlock.close? .outside rest
        let token ← lastWord? after
        return { name, block := some block, token }
      | rest => do
        let token ← lastWord? rest
        return { name, block := none, token } := by
  obtain ⟨start, hfirst, hstart⟩ := hname.starts
  have hstop : ∀ d ∈ (c :: rest).head?, isNameChar d = false := by
    rintro d ⟨⟩
    exact hends
  have htake := Text.takeWhile_word hname.continues hstop
  have hdrop := Text.dropWhile_word hname.continues hstop
  have hhead : (name ++ c :: rest).head? = some start := by
    rw [List.head?_append, hfirst, Option.some_or]
  rw [sampleParts?, hhead, htake, hdrop]
  simp only [Option.bind_eq_bind, Option.bind_some, hstart, guard, ↓reduceIte]
  rfl

/-- A sample line is cut where its parts were put together, whatever stands between the quotes of
its labels. -/
theorem sampleParts?_line (bare : Bool) (sample : WrittenSample) :
    ∃ block, LabelBlock.read (block.getD []) = .ok sample.labels ∧
      sampleParts? (sample.line bare) = some ⟨sample.name, block, sample.token.text⟩ := by
  by_cases hbare : bare = true ∧ sample.labels = .empty
  · refine ⟨none, by rw [hbare.2]; rfl, ?_⟩
    rw [WrittenSample.line, WrittenSample.labelText, if_pos hbare, List.nil_append,
      sampleParts?_append sample.named (by decide)]
    simp [lastWord?_token]
  · refine ⟨some (LabelBlock.blockText sample.labels), LabelBlock.read_blockText sample.writable, ?_⟩
    rw [WrittenSample.line, WrittenSample.labelText, if_neg hbare, List.cons_append,
      sampleParts?_append sample.named (by decide), List.append_assoc]
    have hclose := LabelBlock.close?_blockText sample.writable (' ' :: sample.token.text)
    simp [hclose, lastWord?_token]

/-- The line of a sample is read as that sample, whatever its label values hold. -/
theorem read_sampleLine (bare : Bool) (sample : WrittenSample) :
    read (sample.line bare) = .ok (.sample sample.toSample) := by
  obtain ⟨block, hlabels, hparts⟩ := sampleParts?_line bare sample
  obtain ⟨start, hfirst, hstart⟩ := sample.named.starts
  have hhead : (sample.line bare).head? = some start := by
    rw [WrittenSample.line, List.head?_append, hfirst, Option.some_or]
  have htrim : (sample.line bare).trim = sample.line bare := by
    refine Text.trim_eq_self (fun c hc => ?_) (sample.getLast?_line bare)
    rw [hhead] at hc
    cases hc
    exact sample.named.unbroken start (List.mem_of_mem_head? hfirst)
  have hsample : readSample (sample.line bare) (sample.line bare) = .ok (.sample sample.toSample) := by
    simp only [readSample, hparts, sample.token.reads, hlabels]
    rfl
  rw [read, htrim]
  generalize sample.line bare = line at hhead hsample ⊢
  split
  · cases hhead
  · cases hhead
    exact absurd hstart (by decide)
  · exact hsample

/-! ### Headers -/

/-- A header as an exporter writes it. -/
def headerLine (keyword : Keyword) (name text : Text) : Text :=
  '#' :: ' ' :: (keyword.name ++ ' ' :: (name ++ ' ' :: text))

def typeLine (name : Text) (type : MetricType) : Text :=
  headerLine .type name type.name

/-- Headers are written with single blanks, one of the ways in which they are read. -/
theorem isNamed_headerLine (keyword : Keyword) {name : Text} (hname : Text.IsWord name) (text : Text) :
    IsNamed keyword (headerLine keyword name text) name (' ' :: text) := by
  have hblank : ∀ c ∈ [' '], Text.isBlank c = true := List.all_eq_true.mp (by decide)
  refine ⟨hname, fun c hc => ?_, [' '], ⟨List.cons_ne_nil _ _, hblank⟩, [], [' '], by simp, hblank, rfl⟩
  cases hc
  decide

/-- A type header is read as one. -/
theorem read_typeLine {name : Text} (hname : IsName name) (type : MetricType) :
    read (typeLine name type) = .ok (.type name type) := by
  have hnamed := isNamed_headerLine .type hname.isWord type.name
  have htext : Text.trim (' ' :: type.name) = type.name := by cases type <;> decide
  have hlineEnd : type.name.any Text.isLineEnd = false := by cases type <;> decide
  have hname? : MetricType.ofName? type.name = some type := by cases type <;> decide
  rw [typeLine, hnamed.read_eq, readComment, hnamed.header?_eq]
  simp [htext, hlineEnd, hname?]

/-- A help header is read as one, or as a comment if its text holds a line end. -/
theorem read_helpLine {name : Text} (hname : IsName name) (text : Text) :
    (∃ help, read (headerLine .help name text) = .ok (.help name help)) ∨
      ∃ comment, read (headerLine .help name text) = .ok (.comment comment) := by
  rw [(isNamed_headerLine .help hname.isWord text).read_help]
  split
  · exact .inr ⟨_, rfl⟩
  · exact .inl ⟨_, rfl⟩

theorem getLast?_typeLine (name : Text) (type : MetricType) :
    ∀ c ∈ (typeLine name type).getLast?, Text.isBlank c = false := by
  have hsplit : typeLine name type =
      ('#' :: ' ' :: (Keyword.type.name ++ ' ' :: (name ++ [' ']))) ++ type.name := by
    simp [typeLine, headerLine]
  rw [hsplit, List.getLast?_append_of_ne_nil _ (by cases type <;> decide)]
  have hunbroken : type.name.Unbroken := by cases type <;> decide
  exact fun c hc => hunbroken c (List.mem_of_mem_getLast? hc)

/-! ### Line feeds -/

/-- A sample is written on one line, since line feeds in label values are escaped. -/
theorem lineFeed_not_mem_sampleLine (bare : Bool) (sample : WrittenSample) :
    '\n' ∉ sample.line bare := by
  have hname := sample.named.lineFeed_not_mem
  have htoken := sample.token.lineFeed_not_mem
  have hblock := LabelBlock.lineFeed_not_mem_blockText sample.writable
  rw [WrittenSample.line, WrittenSample.labelText]
  split <;> simp [hname, htoken, hblock]

/-- A header is written on one line if its text has no line feed. -/
theorem lineFeed_not_mem_headerLine (keyword : Keyword) {name text : Text} (hname : IsName name)
    (htext : '\n' ∉ text) : '\n' ∉ headerLine keyword name text := by
  have hkeyword : '\n' ∉ keyword.name := by cases keyword <;> decide
  simp [headerLine, hname.lineFeed_not_mem, hkeyword, htext]

end Line

end ExporterAudit
