import ExporterAudit.Proofs.Line.HelpText
import ExporterAudit.Scrape

/-!
Help texts of a page. The page is searched for the first help header of a name, and only lines that
start like one are read. The search finds what reading each line would find, and a header without a
metric name ends it.
-/

namespace ExporterAudit

namespace Line

/-- A help header for a name. -/
def IsHelpFor (name line : Text) : Prop :=
  ∃ text, read line = .ok (.help name text)

/-- A help header with nothing but white space behind its keyword. -/
def IsNamelessHelp (line : Text) : Prop :=
  ∃ gap, IsGap gap ∧ IsMarked .help line gap

/-- The line decides on the help for a name, or on the page. -/
def Settles (name line : Text) : Prop :=
  IsHelpFor name line ∨ IsNamelessHelp line

/-- Lines that say nothing about the help for a name: whatever is no header, type headers, and what is
read as anything but a help header for the name. Of the first two, no line has to be well formed. -/
inductive IsBystander (name line : Text) : Prop where
  | noHeader (hhash : '#' ∉ line.trim.head?)
  | type {rest : Text} (hmarked : IsMarked .type line rest)
  | read {classified : Line} (hread : read line = .ok classified)
      (hother : ∀ text, classified ≠ .help name text)

variable {name line : Text}

theorem IsNamelessHelp.read_eq (hnameless : IsNamelessHelp line) :
    read line = .error (.malformedLine line.trim "HELP without metric name") := by
  obtain ⟨gap, hgap, hmarked⟩ := hnameless
  exact hmarked.read_of_blank hgap.2

theorem Settles.exists_isMarked (hsettles : Settles name line) :
    ∃ rest, IsMarked .help line rest := by
  rcases hsettles with ⟨text, hread⟩ | ⟨gap, -, hmarked⟩
  · obtain ⟨tail, hnamed, -⟩ := read_eq_help_iff.mp hread
    exact hnamed.exists_isMarked
  · exact ⟨gap, hmarked⟩

/-- A line that is no help header, or one of another name, decides nothing. -/
theorem IsBystander.not_settles (hbystander : IsBystander name line) : ¬ Settles name line := by
  intro hsettles
  obtain ⟨rest, hmarked⟩ := hsettles.exists_isMarked
  cases hbystander with
  | noHeader hhash => exact hhash hmarked.hash
  | type htype => cases (hmarked.unique htype).1
  | read hread hother =>
    rcases hsettles with ⟨text, hhelp⟩ | hnameless
    · exact hother text (Except.ok.inj (hread.symm.trans hhelp))
    · cases hread.symm.trans hnameless.read_eq

end Line

namespace Scrape

open Line

/-- A line starts like a help header exactly if white space stands behind its mark. -/
theorem mayBeHelp_iff {line : Text} :
    mayBeHelp line = true ↔
      ∃ rest, IsMarked .help line rest ∧ ∃ c ∈ rest.head?, Text.isBlank c = true := by
  constructor
  · intro hmay
    unfold mayBeHelp at hmay
    split at hmay
    · next behindHash hstart =>
      split at hmay
      · next c others hkeyword =>
        have hmarked : IsMarked .help line (c :: others ++ []) :=
          isMarked_of_trimStart (hstart.trans (by rw [List.append_nil]))
            (Text.dropPrefix?_eq_some_iff.mp hkeyword)
        exact ⟨_, hmarked, c, rfl, hmay⟩
      · cases hmay
    · cases hmay
  · rintro ⟨rest, hmarked, c, hfirst, hblank⟩
    obtain ⟨gap, hgap, hstart⟩ := hmarked.trimStart_eq
    obtain ⟨others, rfl⟩ := List.head?_eq_some_iff.mp hfirst
    have hkeyword : Text.dropPrefix? Keyword.help.name
        (Text.trimStart (gap ++ (Keyword.help.name ++ c :: others))) = some (c :: others) := by
      rw [Text.trimStart_append hgap ((isWord_keyword .help).head _), Text.dropPrefix?_eq_some_iff]
    rw [mayBeHelp, hstart]
    simp only [hkeyword, hblank]

/-- What a line settles about the help for a name: its text, or that the page is refused. -/
def settled? (name line : Text) : Option (Except Failure Text) :=
  if mayBeHelp line = true then
    match read line with
    | .error failure => some (.error failure)
    | .ok (.help other text) => if other = name then some (.ok text) else none
    | .ok _ => none
  else none

/-- A line gives a help text exactly if reading it as any line would. -/
theorem settled?_eq_ok_iff {name line text : Text} :
    settled? name line = some (.ok text) ↔ read line = .ok (.help name text) := by
  constructor
  · intro hsettled
    unfold settled? at hsettled
    split_ifs at hsettled
    split at hsettled
    · cases hsettled
    · split_ifs at hsettled with hsame
      cases hsettled
      rwa [← hsame]
    · cases hsettled
  · intro hread
    obtain ⟨tail, ⟨-, -, gap, hgap, hmarked⟩, -⟩ := read_eq_help_iff.mp hread
    rw [settled?, if_pos (mayBeHelp_iff.mpr ⟨_, hmarked, hgap.head _⟩), hread]
    exact if_pos rfl

/-- The only failure is that of a header without a name. -/
theorem settled?_eq_error_iff (name : Text) {line : Text} {failure : Failure} :
    settled? name line = some (.error failure) ↔
      IsNamelessHelp line ∧ failure = .malformedLine line.trim "HELP without metric name" := by
  constructor
  · intro hsettled
    unfold settled? at hsettled
    split_ifs at hsettled with hmay
    obtain ⟨rest, hmarked, c, hfirst, -⟩ := mayBeHelp_iff.mp hmay
    have hnonempty : rest ≠ [] := by
      rintro rfl
      cases hfirst
    split at hsettled
    · next hread =>
      cases hsettled
      obtain ⟨hblank, hfailure⟩ := hmarked.read_eq_error_iff.mp hread
      exact ⟨⟨rest, ⟨hnonempty, hblank⟩, hmarked⟩, hfailure⟩
    · split_ifs at hsettled
      cases hsettled
    · cases hsettled
  · rintro ⟨⟨gap, hgap, hmarked⟩, hfailure⟩
    have hspace := hgap.head []
    rw [List.append_nil] at hspace
    have hread := hmarked.read_eq_error_iff.mpr ⟨hgap.2, hfailure⟩
    rw [settled?, if_pos (mayBeHelp_iff.mpr ⟨gap, hmarked, hspace⟩), hread]

/-- All other lines are passed over, malformed ones included. -/
theorem settled?_eq_none_iff {name line : Text} :
    settled? name line = none ↔ ¬ Settles name line := by
  constructor
  · rintro hnone (⟨text, hread⟩ | hnameless)
    · cases hnone.symm.trans (settled?_eq_ok_iff.mpr hread)
    · cases hnone.symm.trans ((settled?_eq_error_iff name).mpr ⟨hnameless, rfl⟩)
  · intro hidle
    cases hsettled : settled? name line with
    | none => rfl
    | some outcome =>
      refine absurd ?_ hidle
      cases outcome with
      | error failure => exact .inr ((settled?_eq_error_iff name).mp hsettled).1
      | ok text => exact .inl ⟨text, settled?_eq_ok_iff.mp hsettled⟩

/-! ### The search -/

theorem helpIn_cons (name line : Text) (rest : List Text) :
    helpIn name (line :: rest) =
      match settled? name line with
      | some outcome => some <$> outcome
      | none => helpIn name rest := by
  rw [helpIn, settled?]
  split_ifs
  · cases read line with
    | error failure => rfl
    | ok classified =>
      cases classified with
      | help other text =>
        change (if other = name then .ok (some text) else helpIn name rest) = _
        by_cases hsame : other = name <;> simp [hsame]
      | _ => rfl
  · rfl

/-- The search ends at the first line that settles something. -/
theorem helpIn_eq_sequence (name : Text) (lines : List Text) :
    helpIn name lines = (lines.findSome? (settled? name)).sequence := by
  induction lines with
  | nil => rfl
  | cons line rest ih =>
    rw [helpIn_cons, List.findSome?_cons]
    cases settled? name line with
    | none => exact ih
    | some outcome => rfl

/-- The line settles the help for a name in this way, and no line before it settles it. -/
theorem helpIn_eq_some_map_iff {name : Text} {lines : List Text} (outcome : Except Failure Text) :
    helpIn name lines = some <$> outcome ↔
      ∃ before line after, lines = before ++ line :: after ∧ settled? name line = some outcome ∧
        ∀ earlier ∈ before, ¬ Settles name earlier := by
  rw [helpIn_eq_sequence, show some <$> outcome = (some outcome).sequence from rfl, sequence_inj,
    List.findSome?_eq_some_iff]
  simp only [settled?_eq_none_iff]

/-- A header without a name ends the search. -/
theorem exists_error_of_isNamelessHelp {name : Text} {before : List Text}
    (hbefore : ∀ earlier ∈ before, ¬ IsHelpFor name earlier)
    (hnameless : ∃ earlier ∈ before, IsNamelessHelp earlier) (after : List Text) :
    ∃ failure, helpIn name (before ++ after) = .error failure := by
  obtain ⟨earlier, hmem, hearlier⟩ := hnameless
  have hsettled : (before.findSome? (settled? name)).isSome := by
    rw [List.findSome?_isSome_iff]
    exact ⟨earlier, hmem, by rw [(settled?_eq_error_iff name).mpr ⟨hearlier, rfl⟩]; rfl⟩
  obtain ⟨outcome, hfound⟩ := Option.isSome_iff_exists.mp hsettled
  obtain ⟨line, hline, houtcome⟩ := List.exists_of_findSome?_eq_some hfound
  cases outcome with
  | ok text => exact absurd ⟨text, settled?_eq_ok_iff.mp houtcome⟩ (hbefore line hline)
  | error failure =>
    refine ⟨failure, ?_⟩
    rw [helpIn_eq_sequence, List.findSome?_append, hfound]
    rfl

theorem helpIn_insert {name line : Text} (hidle : ¬ Settles name line) (before after : List Text) :
    helpIn name (before ++ line :: after) = helpIn name (before ++ after) := by
  rw [helpIn_eq_sequence, helpIn_eq_sequence, List.findSome?_append, List.findSome?_append,
    List.findSome?_cons, settled?_eq_none_iff.mpr hidle]

/-- The search for a help text agrees with reading every line. It returns a text exactly if some line
is read as a help header for the name with this text and no line before it settles anything, nothing
exactly if no line does, and fails exactly if the first line that does is a help header without a name.
Samples and comments, type headers and help headers of other names, malformed or not, can stand
anywhere. -/
theorem help_agrees_with_reading (scrape : Scrape) (short : Text) :
    (∀ text, scrape.help short = .ok (some text) ↔
      ∃ before line after, scrape.lines = before ++ line :: after ∧
        read line = .ok (.help (scrape.space.qualifiedName short) text) ∧
        ∀ earlier ∈ before, ¬ Settles (scrape.space.qualifiedName short) earlier) ∧
    (scrape.help short = .ok none ↔
      ∀ line ∈ scrape.lines, ¬ Settles (scrape.space.qualifiedName short) line) ∧
    (∀ failure, scrape.help short = .error failure ↔
      ∃ before line after, scrape.lines = before ++ line :: after ∧
        (IsNamelessHelp line ∧ failure = .malformedLine line.trim "HELP without metric name") ∧
        ∀ earlier ∈ before, ¬ Settles (scrape.space.qualifiedName short) earlier) ∧
    ∀ before line after, scrape.lines = before ++ line :: after →
      IsBystander (scrape.space.qualifiedName short) line →
      scrape.help short = help { scrape with lines := before ++ after } short := by
  refine ⟨fun text => ?_, ?_, fun failure => ?_, fun before line after hlines hbystander => ?_⟩
  · simp only [← settled?_eq_ok_iff]
    exact helpIn_eq_some_map_iff (.ok text)
  · rw [help, helpIn_eq_sequence, show Except.ok none = Option.sequence none from rfl, sequence_inj,
      List.findSome?_eq_none_iff]
    simp only [settled?_eq_none_iff]
  · simp only [← settled?_eq_error_iff (scrape.space.qualifiedName short)]
    exact helpIn_eq_some_map_iff (.error failure)
  · rw [help, hlines]
    exact helpIn_insert hbystander.not_settles before after

/-- A malformed sample, a type header of no known type and a help header of a longer name stand before
the one that is asked for. -/
def mixedPage : Scrape :=
  ⟨["x 1 2", headerLine .type "seastar_test_group_x" "gaugehistogram",
    helpLine "seastar_test_group_xy" "other", "\t#HELP \r seastar_test_group_x  first\\nsecond "],
    .standard⟩

theorem help_agrees_with_reading_mixedPage :
    let name : Text := "seastar_test_group_x"
    IsBystander name "x 1 2" ∧ IsBystander name (headerLine .type name "gaugehistogram") ∧
      IsBystander name (helpLine "seastar_test_group_xy" "other") ∧
      mixedPage.help "x" = .ok (some "first\nsecond") := by
  intro name
  have hname : Text.IsWord name := by decide
  have hsample : IsBystander name "x 1 2" := .noHeader (by decide)
  obtain ⟨rest, hmarked⟩ := (isNamed_headerLine .type hname "gaugehistogram").exists_isMarked
  have hlonger : IsBystander name (helpLine "seastar_test_group_xy" "other") := by
    refine .read (read_helpLine_of_onlyFeeds (by decide) (by decide) (by decide)) fun text hsame => ?_
    injection hsame with hother
    exact absurd hother (by decide)
  refine ⟨hsample, .type hmarked, hlonger, ?_⟩
  calc mixedPage.help "x"
      = help ⟨mixedPage.lines.drop 1, .standard⟩ "x" :=
        (help_agrees_with_reading mixedPage "x").2.2.2 [] _ _ rfl hsample
    _ = help ⟨mixedPage.lines.drop 2, .standard⟩ "x" :=
        (help_agrees_with_reading ⟨mixedPage.lines.drop 1, .standard⟩ "x").2.2.2 [] _ _ rfl
          (.type hmarked)
    _ = help ⟨mixedPage.lines.drop 3, .standard⟩ "x" :=
        (help_agrees_with_reading ⟨mixedPage.lines.drop 2, .standard⟩ "x").2.2.2 [] _ _ rfl hlonger
    _ = .ok (some "first\nsecond") :=
        ((help_agrees_with_reading ⟨mixedPage.lines.drop 3, .standard⟩ "x").1 _).mpr
          ⟨[], _, [], rfl, rfl, List.forall_mem_nil _⟩

/-! ### Texts that are written -/

/-- Help text round trip. The header that is written for a name and a text is read back as both exactly
if no line end other than a line feed stands in the text; any other one makes it a comment. On a page
where it is the first header for the name, also with white space around it, the text is found exactly
if no help header without a name stands before it. -/
theorem help_text_read_back {name text : Text} (hname : Text.IsWord name) (htext : IsHelpText text) :
    (read (helpLine name text) = .ok (.help name text) ↔ OnlyFeeds text) ∧
    (¬ OnlyFeeds text → ∃ comment, read (helpLine name text) = .ok (.comment comment)) ∧
    ∀ (scrape : Scrape) (short : Text) (before : List Text) (line : Text) (after : List Text),
      scrape.space.qualifiedName short = name → scrape.lines = before ++ line :: after →
      line.trim = (helpLine name text).trim → (∀ earlier ∈ before, ¬ IsHelpFor name earlier) →
      OnlyFeeds text →
      (scrape.help short = .ok (some text) ↔ ∀ earlier ∈ before, ¬ IsNamelessHelp earlier) := by
  refine ⟨read_helpLine_eq_iff hname htext, exists_comment_of_helpLine hname htext, ?_⟩
  intro scrape short before line after hshort hlines htrim hbefore hfeeds
  have hread : read line = .ok (.help name text) := by
    rw [read_eq_of_trim_eq hname htrim, read_helpLine_of_onlyFeeds hname htext hfeeds]
  rw [help, hshort, hlines]
  constructor
  · intro hfound earlier hmem hnameless
    obtain ⟨failure, hfailure⟩ := exists_error_of_isNamelessHelp hbefore ⟨earlier, hmem, hnameless⟩
      (line :: after)
    rw [hfound] at hfailure
    cases hfailure
  · intro hnamed
    refine (helpIn_eq_some_map_iff (.ok text)).mpr ⟨before, line, after, rfl, ?_, ?_⟩
    · exact settled?_eq_ok_iff.mpr hread
    · exact fun earlier hmem hsettles => hsettles.elim (hbefore earlier hmem) (hnamed earlier hmem)

/-- The text holds quotes, a hash and backslashes and starts and ends with a line feed; its header is
indented and ends in a carriage return, behind a header for a longer name. -/
theorem help_text_read_back_awkwardText :
    let name : Text := "seastar_test_group_x"
    let text : Text := "\n\"a\" # \\n\\\\\n"
    let body : Text := "# HELP seastar_test_group_xy other\n\t" ++ helpLine name text ++ " \r\nx 1"
    Text.IsWord name ∧ IsHelpText text ∧ read (helpLine name text) = .ok (.help name text) ∧
      (Scrape.ofBody body .standard).help "x" = .ok (some text) := by
  intro name text body
  have hname : Text.IsWord name := by decide
  have htext : IsHelpText text := by decide
  have hfeeds : OnlyFeeds text := by decide
  have hother : ¬ Settles name "# HELP seastar_test_group_xy other" := settled?_eq_none_iff.mp rfl
  obtain ⟨hread, -, hpage⟩ := help_text_read_back hname htext
  refine ⟨hname, htext, hread.mpr hfeeds, ?_⟩
  refine (hpage (.ofBody body .standard) "x" ["# HELP seastar_test_group_xy other"]
    ("\t" ++ helpLine name text ++ " \r") ["x 1"] rfl (by decide) (by decide) ?_ hfeeds).mpr ?_
  · exact List.forall_mem_singleton.mpr fun hhelp => hother (.inl hhelp)
  · exact List.forall_mem_singleton.mpr fun hnameless => hother (.inr hnameless)

/-- A carriage return in the text makes the header a comment, and a header without a name ends the
search. -/
theorem help_text_lost_of_carriageReturn :
    let name : Text := "seastar_test_group_x"
    Text.IsWord name ∧ IsHelpText "a\rb" ∧
      read (helpLine name "a\rb") = .ok (.comment "HELP seastar_test_group_x a\rb") ∧
      (Scrape.ofBody (helpLine name "a\rb") .standard).help "x" = .ok none ∧
      (Scrape.ofBody ("# HELP \n" ++ helpLine name "a") .standard).help "x" =
        .error (.malformedLine "# HELP" "HELP without metric name") := by
  exact ⟨by decide, by decide, rfl, rfl, rfl⟩

end Scrape

end ExporterAudit
