import ExporterAudit.Proofs.Exposition.Streaming
import ExporterAudit.Proofs.Family.Block
import ExporterAudit.Scrape

/-!
Pages of families are read back as the records that the families mean. The page is cut into the
lines that it was joined from, these are classified one by one, and the blocks that they make are
those of the families.
-/

namespace ExporterAudit

namespace Family

/-- A help header leaves no trace on the page. -/
theorem exists_read_help (family : Family) :
    ∃ headers, (family.help.map (Line.headerLine .help family.name)).toList.mapM Line.read =
      .ok headers ∧ ∀ rest, Page.ofLines (headers ++ rest) = Page.ofLines rest := by
  cases family.help with
  | none => exact ⟨[], rfl, fun _ => rfl⟩
  | some text =>
    rcases Line.read_helpLine family.named text with ⟨help, hread⟩ | ⟨comment, hread⟩
    · exact ⟨[.help family.name help], by simp [hread], fun _ => rfl⟩
    · exact ⟨[.comment comment], by simp [hread], fun _ => rfl⟩

theorem mapM_read_samples (bare : Bool) (samples : List WrittenSample) :
    (samples.map (·.line bare)).mapM Line.read =
      .ok (samples.map fun sample => .sample sample.toSample) := by
  induction samples with
  | nil => rfl
  | cons sample rest ih =>
    rw [List.map_cons, List.mapM_cons, Line.read_sampleLine, ih]
    rfl

/-- Samples in front of a page belong to what stands before its first header. -/
theorem ofLines_samples (samples : List WrittenSample) (rest : List Line) :
    Page.ofLines (samples.map (fun sample => .sample sample.toSample) ++ rest) =
      ⟨samples.map WrittenSample.toSample ++ (Page.ofLines rest).leading,
        (Page.ofLines rest).blocks⟩ := by
  induction samples with
  | nil => rfl
  | cons sample others ih =>
    rw [List.map_cons, List.cons_append, Page.ofLines, ih]
    rfl

/-- The lines of families are read as a page of their blocks. -/
theorem exists_read_lines (bare : Bool) (families : List Family) :
    ∃ classified, (families.flatMap (lines bare)).mapM Line.read = .ok classified ∧
      Page.ofLines classified = ⟨[], families.map block⟩ := by
  induction families with
  | nil => exact ⟨[], rfl, rfl⟩
  | cons family rest ih =>
    obtain ⟨later, hlater, hpage⟩ := ih
    obtain ⟨headers, hheaders, hskip⟩ := family.exists_read_help
    refine ⟨headers ++ (.type family.name family.type ::
      family.samples.map fun sample => .sample sample.toSample) ++ later, ?_, ?_⟩
    · rw [List.flatMap_cons, lines, List.mapM_append, List.mapM_append, List.mapM_cons, hheaders,
        Line.read_typeLine family.named, mapM_read_samples, hlater]
      rfl
    · rw [List.append_assoc, hskip, List.cons_append, Page.ofLines, ofLines_samples, hpage,
        List.append_nil]
      rfl

/-- Families are read as their records. -/
theorem read_lines (bare : Bool) {families : List Family}
    (hcoherent : ∀ family ∈ families, family.Coherent)
    (hfound : ∀ family ∈ families, family.OctavesFound) :
    ∃ records, families.mapM records? = some records ∧
      Exposition.read (families.flatMap (lines bare)) {} = ⟨records.flatten, none⟩ := by
  obtain ⟨records, hrecords⟩ : ∃ records, families.mapM records? = some records :=
    Option.isSome_iff_exists.mp (isSome_mapM_iff.mpr fun family hmem =>
      isSome_records? (hcoherent family hmem) (hfound family hmem))
  obtain ⟨classified, hread, hpage⟩ := exists_read_lines bare families
  have hblocks : (families.map block).mapM (·.records? {}) = families.mapM records? := by
    clear hrecords hread hpage hfound
    induction families with
    | nil => rfl
    | cons family rest ih =>
      obtain ⟨hfamily, hrest⟩ := List.forall_mem_cons.mp hcoherent
      rw [List.map_cons, List.mapM_cons, List.mapM_cons, records?_block hfamily, ih hrest]
  have hcomplete := Exposition.complete?_read hread (hpage ▸ finiteCounts_blocks families)
  refine ⟨records, hrecords, Exposition.complete?_eq_some_iff.mp (hcomplete.trans ?_)⟩
  rw [hpage, Page.records?, hblocks, hrecords]
  rfl

/-! ### The page as one text -/

theorem lineFeed_not_mem_lines (bare : Bool) (family : Family) :
    ∀ line ∈ family.lines bare, '\n' ∉ line := by
  intro line hmem
  have htype : '\n' ∉ family.type.name := by cases family.type <;> decide
  rw [lines, List.mem_append, List.mem_cons, List.mem_map] at hmem
  rcases hmem with hhelp | rfl | ⟨sample, -, rfl⟩
  · rw [Option.mem_toList, Option.map_eq_some_iff] at hhelp
    obtain ⟨text, htext, rfl⟩ := hhelp
    exact Line.lineFeed_not_mem_headerLine .help family.named (family.helpFits text htext)
  · exact Line.lineFeed_not_mem_headerLine .type family.named htype
  · exact Line.lineFeed_not_mem_sampleLine bare sample

/-- The last line of a family does not end in white space. -/
theorem exists_lines_eq_append (bare : Bool) (family : Family) :
    ∃ earlier last, family.lines bare = earlier ++ [last] ∧ last ≠ [] ∧
      ∀ c ∈ last.getLast?, Text.isBlank c = false := by
  rcases List.eq_nil_or_concat family.samples with hempty | ⟨others, sample, hsamples⟩
  · exact ⟨_, Line.typeLine family.name family.type, by rw [lines, hempty]; rfl,
      by simp [Line.typeLine, Line.headerLine], Line.getLast?_typeLine family.name family.type⟩
  · refine ⟨(family.help.map (Line.headerLine .help family.name)).toList ++
      Line.typeLine family.name family.type :: others.map (·.line bare), sample.line bare, ?_,
      by simp [WrittenSample.line], sample.getLast?_line bare⟩
    simp [lines, hsamples]

/-- A page comes apart into the lines that it was joined from. -/
theorem splitOn_pageText (bare : Bool) {families : List Family} (hnonempty : families ≠ []) :
    Text.splitOn '\n' (pageText bare families) = families.flatMap (lines bare) := by
  refine Text.splitOn_join ?_ fun line hmem => ?_
  · obtain ⟨family, hfamily⟩ := List.exists_mem_of_ne_nil families hnonempty
    have hline : Line.typeLine family.name family.type ∈ family.lines bare := by simp [lines]
    exact List.ne_nil_of_mem (List.mem_flatMap.mpr ⟨family, hfamily, hline⟩)
  · obtain ⟨family, -, hline⟩ := List.mem_flatMap.mp hmem
    exact family.lineFeed_not_mem_lines bare line hline

/-- A page ends with a value or a type, so trimming its end takes off nothing that was written. -/
theorem getLast?_pageText (bare : Bool) (families : List Family) :
    ∀ c ∈ (pageText bare families).getLast?, Text.isBlank c = false := by
  intro c hc
  rcases List.eq_nil_or_concat families with rfl | ⟨others, family, rfl⟩
  · cases hc
  · obtain ⟨earlier, last, hlines, hnonempty, hlast⟩ := family.exists_lines_eq_append bare
    rw [pageText, List.concat_eq_append, List.flatMap_append, List.flatMap_singleton, hlines,
      ← List.append_assoc, Text.getLast?_join _ hnonempty] at hc
    exact hlast c hc

end Family

/-- Text format round trip. A page that is written for families, with white space behind it or
without, is read to its end if all octaves are found, and the records are those of the families in
order: one with name, labels and value for each reading, and one for each series, rebuilt from the
buckets that change its count. Label values can be any texts. -/
theorem Scrape.records_pageText (bare : Bool) {families : List Family}
    (hcoherent : ∀ family ∈ families, family.Coherent)
    (hfound : ∀ family ∈ families, family.OctavesFound) {blank : Text}
    (hblank : ∀ c ∈ blank, Text.isBlank c = true) (space : Namespace) :
    ∃ records, families.mapM Family.records? = some records ∧
      (Scrape.ofBody (Family.pageText bare families ++ blank) space).records none none =
        ⟨records.flatten, none⟩ := by
  have hbody : (Family.pageText bare families ++ blank).trimEnd = Family.pageText bare families :=
    Text.trimEnd_append_blank (Family.getLast?_pageText bare families) hblank
  by_cases hempty : families = []
  · subst hempty
    refine ⟨[], rfl, ?_⟩
    rw [Scrape.ofBody, hbody]
    rfl
  · obtain ⟨records, hrecords, hread⟩ := Family.read_lines bare hcoherent hfound
    refine ⟨records, hrecords, ?_⟩
    rw [Scrape.ofBody, hbody, Family.splitOn_pageText bare hempty]
    exact hread

/-- A gauge with a label value full of special characters, and a histogram of two series. -/
def awkwardFamilies : List Family := [
  { name := "depth"
    named := by decide
    help := some "current depth"
    helpFits := by decide
    content := .scalar .gauge [
      { labels := ⟨[("path", "a,b=\"c\"\x7d \\\n\r")], by decide⟩
        writable := by decide
        token := ⟨"12", 12, by decide, by decide +kernel⟩ }] },
  { name := "wait"
    named := by decide
    help := some "how long"
    helpFits := by decide
    content := .histogram [
      { labels := ⟨[("shard", "0")], by decide⟩
        writable := by decide
        unbounded := by decide
        buckets := [
          ⟨"2", ⟨"40", 40, by decide, by decide +kernel⟩, by decide +kernel⟩,
          ⟨"+Inf", ⟨"40", 40, by decide, by decide +kernel⟩, by decide +kernel⟩]
        nonempty := by simp
        totals := [(.sum,
          { labels := ⟨[("shard", "0")], by decide⟩
            writable := by decide
            token := ⟨"40", 40, by decide, by decide +kernel⟩ })] },
      { labels := ⟨[("shard", "1")], by decide⟩
        writable := by decide
        unbounded := by decide
        buckets := [⟨"8", ⟨"60", 60, by decide, by decide +kernel⟩, by decide +kernel⟩]
        nonempty := by simp
        totals := [] }] }]

theorem Scrape.records_pageText_awkwardFamilies :
    (∀ family ∈ awkwardFamilies, family.Coherent) ∧
      (∀ family ∈ awkwardFamilies, family.OctavesFound) ∧ (∀ c ∈ ['\n'], Text.isBlank c = true) ∧
      ∃ records, awkwardFamilies.mapM Family.records? = some records ∧
        (Scrape.ofBody (Family.pageText false awkwardFamilies ++ ['\n']) .standard).records none none =
          ⟨records.flatten, none⟩ := by
  have hcoherent : ∀ family ∈ awkwardFamilies, family.Coherent := by decide +kernel
  have hfound : ∀ family ∈ awkwardFamilies, family.OctavesFound := by decide +kernel
  have hblank : ∀ c ∈ ['\n'], Text.isBlank c = true := List.all_eq_true.mp (by decide)
  exact ⟨hcoherent, hfound, hblank,
    Scrape.records_pageText false hcoherent hfound hblank .standard⟩

/-- A histogram whose observations lie below the greatest number of the format. -/
def greatestFamily : Family where
  name := "wait"
  named := by decide
  help := some "how long"
  helpFits := by decide
  content := .histogram [
    { labels := ⟨[("shard", "0")], by decide⟩
      writable := by decide
      unbounded := by decide
      buckets := [
        ⟨"1.7976931348623157e308", ⟨"4", 4, by decide, by decide +kernel⟩, by decide +kernel⟩]
      nonempty := by simp
      totals := [] }]

/-- A page of coherent families need not be read to its end: below a bound that is finite and above
one the search for an octave can go on for ever. -/
theorem Scrape.records_endless_of_greatestFamily :
    greatestFamily.Coherent ∧ ∃ value,
      ((Scrape.ofBody (Family.pageText false [greatestFamily]) .standard).records none none).failure =
        some (.endless value) := by
  have hendless : ((Scrape.ofBody (Family.pageText false [greatestFamily]) .standard).records
      none none).failure.any Failure.isEndless = true := by decide +kernel
  obtain ⟨failure, hfailure, hforever⟩ := (Option.any_eq_true _ _).mp hendless
  obtain ⟨value, rfl⟩ := Failure.isEndless_eq_true_iff.mp hforever
  exact ⟨by decide +kernel, value, hfailure⟩

end ExporterAudit
