import ExporterAudit.Proofs.Labels.Key
import ExporterAudit.Proofs.Line.Parts

/-!
Which label values lose their quotes. A value that is one complete quoted text loses them, and a value
that does not both open and close with a double quote is kept as it is written. What stands between
quotes that do not belong together, as in two pairs without a comma between them, loses the outer quotes
as well.
-/

namespace ExporterAudit.LabelBlock

/-- What may stand between two double quotes that belong together: quotes only after backslashes, and
a character after each backslash. -/
inductive Enclosed : Text → Prop
  | nil : Enclosed []
  | plain {c : Char} {rest : Text} (hquote : c ≠ '"') (hslash : c ≠ '\\') (hrest : Enclosed rest) :
    Enclosed (c :: rest)
  | escaped (c : Char) {rest : Text} (hrest : Enclosed rest) : Enclosed ('\\' :: c :: rest)

/-- A text with a double quote before and behind it. -/
def surround (inside : Text) : Text :=
  '"' :: (inside ++ ['"'])

/-- The text is one complete quoted text: the first quote behind its opening one that does not stand
after a backslash is its last character. -/
def IsQuoted (written : Text) : Prop :=
  ∃ inside, Enclosed inside ∧ written = surround inside

/-- The text opens and closes with quotes, which need not belong together. -/
def OpensAndCloses (written : Text) : Prop :=
  ∃ inside, written = surround inside

/-- One quoted text is the usual case of a value between quotes, not the only one. -/
theorem IsQuoted.opensAndCloses {written : Text} (hquoted : IsQuoted written) : OpensAndCloses written := by
  obtain ⟨inside, -, hwritten⟩ := hquoted
  exact ⟨inside, hwritten⟩

@[simp]
theorem enclosed_nil : Enclosed [] := .nil

/-- A character other than a backslash stands for itself, unless it is the quote that would end the
text. -/
theorem enclosed_cons_iff {c : Char} {rest : Text} (hslash : c ≠ '\\') :
    Enclosed (c :: rest) ↔ c ≠ '"' ∧ Enclosed rest := by
  constructor
  · intro henclosed
    cases henclosed with
    | plain hquote _ hrest => exact ⟨hquote, hrest⟩
    | escaped => exact absurd rfl hslash
  · rintro ⟨hquote, hrest⟩
    exact .plain hquote hslash hrest

/-- Behind a backslash any character goes, a quote included. -/
theorem enclosed_escaped_iff {c : Char} {rest : Text} : Enclosed ('\\' :: c :: rest) ↔ Enclosed rest := by
  refine ⟨fun henclosed => ?_, .escaped c⟩
  cases henclosed with
  | plain _ hslash => exact absurd rfl hslash
  | escaped _ hrest => exact hrest

/-- Behind an enclosed text a quote closes, and what goes on is not enclosed with it. -/
theorem Enclosed.not_append_quote {first : Text} (hfirst : Enclosed first) (rest : Text) :
    ¬ Enclosed (first ++ '"' :: rest) := by
  induction hfirst with
  | nil =>
    rw [List.nil_append, enclosed_cons_iff (by decide)]
    exact fun hquote => hquote.1 rfl
  | plain hquote hslash hrest ih =>
    rw [List.cons_append, enclosed_cons_iff hslash]
    exact fun hwhole => ih hwhole.2
  | escaped c hrest ih =>
    rw [List.cons_append, List.cons_append, enclosed_escaped_iff]
    exact ih

/-- Two quoted texts in a row look like one from outside. -/
theorem surround_append_surround (first between second : Text) :
    surround first ++ (between ++ surround second) =
      surround (first ++ '"' :: (between ++ '"' :: second)) := by
  simp [surround]

/-- Two quoted texts with anything between them, such as the name of a second pair, open and close with
quotes that do not belong together. -/
theorem not_isQuoted_append {first : Text} (hfirst : Enclosed first) (between second : Text) :
    ¬ IsQuoted (surround first ++ (between ++ surround second)) := by
  rintro ⟨inside, hinside, hwritten⟩
  rw [surround_append_surround, surround, surround, List.cons.injEq] at hwritten
  rw [← List.append_cancel_right hwritten.2] at hinside
  exact hfirst.not_append_quote _ hinside

/-! ### Values -/

/-- The quotes are taken off exactly where there are two of them, at both ends. -/
theorem unquote?_eq_some_iff {written inside : Text} :
    unquote? written = some inside ↔ written = surround inside := by
  constructor
  · intro hunquoted
    unfold unquote? at hunquoted
    split at hunquoted
    · next rest =>
      obtain ⟨hlast, hinside⟩ := Option.ite_none_right_eq_some.mp hunquoted
      cases hinside
      rw [surround, List.dropLast_append_getLast? _ hlast]
    · cases hunquoted
  · rintro rfl
    simp [unquote?, surround]

theorem valueOf_surround (inside : Text) : valueOf (surround inside) = unescape inside := by
  rw [valueOf, unquote?_eq_some_iff.mpr rfl]

/-- Without quotes at both ends a value is kept as it is written, backslashes included. -/
theorem valueOf_of_not_opensAndCloses {written : Text} (hwritten : ¬ OpensAndCloses written) :
    valueOf written = written := by
  rw [valueOf]
  split
  · next inside hunquoted => exact absurd ⟨inside, unquote?_eq_some_iff.mp hunquoted⟩ hwritten
  · rfl

theorem length_unescape_le (text : Text) : (unescape text).length ≤ text.length := by
  fun_induction unescape text with
  | case1 => exact Nat.le_refl _
  | case2 c rest hlineEnd ih => simp only [List.length_cons]; omega
  | case3 c rest hlineEnd ih => simp only [List.length_cons]; omega
  | case4 c rest hescape ih => simp only [List.length_cons]; omega

/-- A text that opens and closes with quotes is never its own value. -/
theorem valueOf_eq_self_iff {written : Text} : valueOf written = written ↔ ¬ OpensAndCloses written := by
  refine ⟨?_, valueOf_of_not_opensAndCloses⟩
  rintro hself ⟨inside, rfl⟩
  have hlength := congrArg List.length hself
  have hshorter := length_unescape_le inside
  rw [valueOf_surround, surround, List.length_cons, List.length_append, List.length_singleton] at hlength
  omega

/-! ### Labels of a line -/

/-- A piece of a block is a pair: it is cut at its first equals sign, and white space does not count. -/
def IsPair (piece name written : Text) : Prop :=
  ∃ before after : Text, piece.trim = before ++ '=' :: after ∧ '=' ∉ before ∧
    name = before.trim ∧ written = after.trim

/-- The last pair of a block that has this name has this value, as it is written. -/
def IsLabel (block name written : Text) : Prop :=
  ∃ earlier piece later, IsCut block (earlier ++ piece :: later) ∧ IsPair piece name written ∧
    ∀ other ∈ later, ∀ text, ¬ IsPair other name text

/-- A pair is cut at its first equals sign, and both parts are trimmed. -/
theorem isPair_iff {piece name written : Text} :
    IsPair piece name written ↔
      (Text.splitFirst? '=' piece.trim).map (fun pair => (pair.1.trim, pair.2.trim)) =
        some (name, written) := by
  constructor
  · rintro ⟨before, after, hpiece, hfree, rfl, rfl⟩
    rw [Text.splitFirst?_eq_some_iff.mpr ⟨hpiece, hfree⟩]
    rfl
  · intro hsplit
    obtain ⟨⟨before, after⟩, hfirst, hpair⟩ := Option.map_eq_some_iff.mp hsplit
    obtain ⟨hpiece, hfree⟩ := Text.splitFirst?_eq_some_iff.mp hfirst
    cases hpair
    exact ⟨before, after, hpiece, hfree, rfl, rfl⟩

theorem IsPair.unique {piece name other written text : Text} (hpair : IsPair piece name written)
    (hother : IsPair piece other text) : name = other ∧ written = text := by
  rw [isPair_iff] at hpair hother
  exact Prod.mk.inj (Option.some.inj (hpair.symm.trans hother))

/-- Adding a pair is assigning its value, without the quotes that it loses. -/
theorem addPair_trim_eq_ok_iff {block piece : Text} {labels next : Labels} :
    addPair block labels piece.trim = .ok next ↔
      ∃ name written, IsPair piece name written ∧ next = labels.assign name (valueOf written) := by
  simp only [isPair_iff, addPair]
  cases Text.splitFirst? '=' piece.trim with
  | none => simp
  | some pair => simp [eq_comm]

/-- A pair is not blank, so it is never skipped. -/
theorem IsPair.trim_ne_nil {piece name written : Text} (hpair : IsPair piece name written) :
    piece.trim ≠ [] := by
  obtain ⟨before, after, hpiece, -⟩ := hpair
  simp [hpiece]

/-- The pairs of some pieces, blank ones left out, are added one after another. -/
def addPieces (block : Text) (labels : Labels) (cut : List Text) : Except Failure Labels :=
  ((cut.map Text.trim).filter (· ≠ [])).foldlM (addPair block) labels

theorem addPieces_append_eq_ok {block : Text} {labels result : Labels} {first second : List Text}
    (hadd : addPieces block labels (first ++ second) = .ok result) :
    ∃ middle, addPieces block labels first = .ok middle ∧ addPieces block middle second = .ok result := by
  unfold addPieces at hadd ⊢
  rw [List.map_append, List.filter_append, List.foldlM_append] at hadd
  exact bind_eq_ok_iff.mp hadd

theorem addPieces_cons_of_isPair {piece name written : Text} (hpair : IsPair piece name written)
    (block : Text) (labels : Labels) (later : List Text) :
    addPieces block labels (piece :: later) =
      addPieces block (labels.assign name (valueOf written)) later := by
  have hfilled := hpair.trim_ne_nil
  unfold addPieces
  rw [List.map_cons, List.filter_cons, if_pos (by simpa using hfilled), List.foldlM_cons,
    addPair_trim_eq_ok_iff.mpr ⟨name, written, hpair, rfl⟩]
  rfl

/-- A piece is skipped if it is blank and has to be a pair otherwise. -/
theorem addPieces_cons_eq_ok {block piece : Text} {labels result : Labels} {later : List Text}
    (hadd : addPieces block labels (piece :: later) = .ok result) :
    (piece.trim = [] ∧ addPieces block labels later = .ok result) ∨
      ∃ name written, IsPair piece name written ∧
        addPieces block (labels.assign name (valueOf written)) later = .ok result := by
  unfold addPieces at hadd ⊢
  rw [List.map_cons, List.filter_cons] at hadd
  by_cases hblank : piece.trim = []
  · rw [if_neg (by simpa using hblank)] at hadd
    exact .inl ⟨hblank, hadd⟩
  · rw [if_pos (by simpa using hblank), List.foldlM_cons] at hadd
    obtain ⟨next, hnext, hlater⟩ := bind_eq_ok_iff.mp hadd
    obtain ⟨name, written, hpair, rfl⟩ := addPair_trim_eq_ok_iff.mp hnext
    exact .inr ⟨name, written, hpair, hlater⟩

/-- Every piece that is not blank is a pair. -/
theorem exists_isPair_of_addPieces {block : Text} {labels result : Labels} {cut : List Text}
    (hadd : addPieces block labels cut = .ok result) :
    ∀ piece ∈ cut, piece.trim ≠ [] → ∃ name written, IsPair piece name written := by
  induction cut generalizing labels with
  | nil => simp
  | cons piece later ih =>
    rw [List.forall_mem_cons]
    rcases addPieces_cons_eq_ok hadd with ⟨hblank, hlater⟩ | ⟨name, written, hpair, hlater⟩
    · exact ⟨fun hfilled => absurd hblank hfilled, ih hlater⟩
    · exact ⟨fun _ => ⟨name, written, hpair⟩, ih hlater⟩

/-- Pieces without a pair of this name leave its value as it is. -/
theorem get?_of_addPieces {block name : Text} {labels result : Labels} {later : List Text}
    (hothers : ∀ other ∈ later, ∀ text, ¬ IsPair other name text)
    (hadd : addPieces block labels later = .ok result) : result.get? name = labels.get? name := by
  induction later generalizing labels with
  | nil =>
    cases hadd
    rfl
  | cons piece later ih =>
    obtain ⟨hpiece, hlaterOthers⟩ := List.forall_mem_cons.mp hothers
    rcases addPieces_cons_eq_ok hadd with ⟨-, hlater⟩ | ⟨other, written, hpair, hlater⟩
    · exact ih hlaterOthers hlater
    · have hother : name ≠ other := by
        rintro rfl
        exact hpiece written hpair
      rw [ih hlaterOthers hlater, Labels.get?_assign_of_ne hother]

/-- The last pair of a name gives the label its value. -/
theorem get?_of_isLabel {block name written : Text} {labels : Labels}
    (hread : read block = .ok labels) (hlabel : IsLabel block name written)
    (hreserved : name ≠ Labels.reservedName) : labels.get? name = some (valueOf written) := by
  obtain ⟨earlier, piece, later, hcut, hpair, hothers⟩ := hlabel
  have hadded : addPieces block .empty (earlier ++ piece :: later) = .ok labels := by
    rw [addPieces, ← hcut.pairs_eq]
    exact hread
  obtain ⟨before, -, hlast⟩ := addPieces_append_eq_ok hadded
  rw [addPieces_cons_of_isPair hpair] at hlast
  rw [get?_of_addPieces hothers hlast, Labels.get?_assign hreserved, if_pos rfl]

/-- A line that is read as a sample has its block cut into pairs. A value that is one complete quoted
text is the text between its quotes without escapes. Any other value is kept as it is written exactly if
it does not both open and close with a double quote. -/
theorem quotes_stripped_of_quoted {line block : Text} {sample : Sample}
    (hread : Line.read line = .ok (.sample sample)) (hblock : Line.HasBlock line block) :
    (∃ cut, IsCut block cut ∧
      ∀ piece ∈ cut, piece.trim ≠ [] → ∃ name written, IsPair piece name written) ∧
    ∀ name written, IsLabel block name written → name ≠ Labels.reservedName →
      (∀ inside, Enclosed inside → written = surround inside →
        sample.labels.get? name = some (unescape inside)) ∧
      (¬ IsQuoted written →
        (sample.labels.get? name = some written ↔ ¬ OpensAndCloses written)) := by
  obtain ⟨parts, hspells, hparts⟩ := hblock
  obtain ⟨others, hothers, -, -, hlabels⟩ := Line.exists_spells_of_read hread
  obtain rfl := hspells.unique hothers
  rw [hparts, Option.getD_some] at hlabels
  constructor
  · obtain ⟨cut, hcut⟩ := exists_isCut (hspells.closed block hparts).ends
    have hadded : addPieces block .empty cut = .ok sample.labels := by
      rw [addPieces, ← hcut.pairs_eq]
      exact hlabels
    exact ⟨cut, hcut, exists_isPair_of_addPieces hadded⟩
  · intro name written hlabel hreserved
    have hvalue := get?_of_isLabel hlabels hlabel hreserved
    constructor
    · rintro inside - rfl
      rw [hvalue, valueOf_surround]
    · intro _
      rw [hvalue, Option.some_inj, valueOf_eq_self_iff]

/-- A quoted value with a comma, a brace and an escape in it, and one that only holds quotes. -/
def mixedLine : Text :=
  "up\x7bpath=\"/a,\x7d\\\"\", zone = eu-\"1\"b\x7d 1".toList

theorem quotes_stripped_of_quoted_mixedLine :
    ∃ sample, Line.read mixedLine = .ok (.sample sample) ∧
      Line.HasBlock mixedLine "path=\"/a,\x7d\\\"\", zone = eu-\"1\"b".toList ∧
      sample.labels.get? "path" = some "/a,\x7d\"".toList ∧
      sample.labels.get? "zone" = some "eu-\"1\"b".toList := by
  have hread : Line.read mixedLine =
      .ok (.sample ⟨"up", Labels.ofPairs [("path", "/a,\x7d\""), ("zone", "eu-\"1\"b")], 1⟩) :=
    toOption_eq_some_iff.mp (by decide +kernel)
  have hblock : Line.HasBlock mixedLine "path=\"/a,\x7d\\\"\", zone = eu-\"1\"b".toList :=
    ⟨⟨"up", some _, "1"⟩, Line.sampleParts?_eq_some_iff.mp (by decide +kernel), rfl⟩
  have hpath : IsPair "path=\"/a,\x7d\\\"\"" "path" "\"/a,\x7d\\\"\"" := isPair_iff.mpr (by decide +kernel)
  have hzone : IsPair " zone = eu-\"1\"b" "zone" "eu-\"1\"b" := isPair_iff.mpr (by decide +kernel)
  obtain ⟨-, hlabels⟩ := quotes_stripped_of_quoted hread hblock
  refine ⟨_, hread, hblock, ?_, ?_⟩
  · have hlast : IsLabel "path=\"/a,\x7d\\\"\", zone = eu-\"1\"b" "path" "\"/a,\x7d\\\"\"" := by
      refine ⟨[], "path=\"/a,\x7d\\\"\"", [" zone = eu-\"1\"b"], by decide +kernel, hpath, ?_⟩
      rintro other hother text hsecond
      obtain rfl := List.mem_singleton.mp hother
      exact absurd (hzone.unique hsecond).1 (by decide)
    have henclosed : Enclosed "/a,\x7d\\\"" := by
      simp [enclosed_cons_iff, enclosed_escaped_iff]
    exact (hlabels _ _ hlast (by decide)).1 _ henclosed rfl
  · have hlast : IsLabel "path=\"/a,\x7d\\\"\", zone = eu-\"1\"b" "zone" "eu-\"1\"b" :=
      ⟨["path=\"/a,\x7d\\\"\""], " zone = eu-\"1\"b", [], by decide +kernel, hzone, by simp⟩
    have hplain : ¬ OpensAndCloses "eu-\"1\"b" := by
      rintro ⟨inside, hwritten⟩
      exact absurd (List.cons.inj hwritten).1 (by decide)
    exact ((hlabels _ _ hlast (by decide)).2 fun hquoted => hplain hquoted.opensAndCloses).mpr hplain

/-- Two pairs without a comma between them are one label, and its value loses the quotes at its ends
although they do not belong together. -/
theorem quotes_stripped_of_adjacentPairs :
    ∃ sample, Line.read "foo\x7ba=\"1\"b=\"2\"\x7d 1".toList = .ok (.sample sample) ∧
      Line.HasBlock "foo\x7ba=\"1\"b=\"2\"\x7d 1" "a=\"1\"b=\"2\"" ∧
      IsLabel "a=\"1\"b=\"2\"" "a" "\"1\"b=\"2\"" ∧ ¬ IsQuoted "\"1\"b=\"2\"" ∧
      sample.labels.get? "a" = some "1\"b=\"2".toList := by
  have hread : Line.read "foo\x7ba=\"1\"b=\"2\"\x7d 1" =
      .ok (.sample ⟨"foo", Labels.ofPairs [("a", "1\"b=\"2")], 1⟩) :=
    toOption_eq_some_iff.mp (by decide +kernel)
  have hblock : Line.HasBlock "foo\x7ba=\"1\"b=\"2\"\x7d 1" "a=\"1\"b=\"2\"" :=
    ⟨⟨"foo", some _, "1"⟩, Line.sampleParts?_eq_some_iff.mp (by decide +kernel), rfl⟩
  have hlabel : IsLabel "a=\"1\"b=\"2\"" "a" "\"1\"b=\"2\"" :=
    ⟨[], "a=\"1\"b=\"2\"", [], by decide +kernel, isPair_iff.mpr (by decide +kernel), by simp⟩
  have hfirst : Enclosed ['1'] := .plain (by decide) (by decide) .nil
  exact ⟨_, hread, hblock, hlabel, not_isQuoted_append hfirst "b=" "2", by decide +kernel⟩

end ExporterAudit.LabelBlock
