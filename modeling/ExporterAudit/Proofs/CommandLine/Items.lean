import ExporterAudit.CommandLine
import ExporterAudit.Proofs.Entries.Lookup
import ExporterAudit.Proofs.Success
import ExporterAudit.Proofs.Text.Lines
import Mathlib.Data.List.Induction

/-!
A command line is read exactly if it is made of items: requests for help and options with a value.
What it says depends on the items alone, not on how each of them is spelled; of several values of an
option the last one counts.
-/

namespace ExporterAudit.CommandLine

/-! ### Items and their spellings -/

/-- The flags that a value belongs to. -/
def flags : List Text :=
  ["--exporter", "--config", "--host", "--port", "--smp", "--prometheus",
    "--prometheus-scrape-interval", "--prefix", "--group"]

/-- What stands on a command line. -/
inductive Item where
  | help
  | given (flag value : Text)
deriving DecidableEq

namespace Item

/-- The arguments that an item can be spelled as. A value is any text that is not empty, also one
that looks like an option or holds an equals sign. -/
inductive SpelledAs : Item → List Text → Prop
  | long : SpelledAs .help ["--help".toList]
  | short : SpelledAs .help ["-h".toList]
  | apart {flag value : Text} (hflag : flag ∈ flags) (hvalue : value ≠ []) :
    SpelledAs (.given flag value) [flag, value]
  | joined {flag value : Text} (hflag : flag ∈ flags) (hvalue : value ≠ []) :
    SpelledAs (.given flag value) [flag ++ '=' :: value]

/-- The value that an item gives to a flag. -/
def value? (flag : Text) : Item → Option Text
  | .help => none
  | .given other value => if other = flag then some value else none

/-- What is known of a command line after one more item. -/
def after (read : Arguments) : Item → Arguments
  | .help => { read with help := true }
  | .given flag value =>
    match ValueOption.ofFlag? flag with
    | some option => read.give option value
    | none => read

end Item

/-- The arguments of a command line are those of items, one after another. -/
inductive Spells : List Item → List Text → Prop
  | nil : Spells [] []
  | cons {item : Item} {items : List Item} {arguments rest : List Text}
    (hitem : item.SpelledAs arguments) (hrest : Spells items rest) :
    Spells (item :: items) (arguments ++ rest)

/-- The last value that items give to a flag. -/
def lastValue? (flag : Text) (items : List Item) : Option Text :=
  (items.filterMap (Item.value? flag)).getLast?

/-! ### Flags -/

namespace ValueOption

/-- No two options share a flag, so a flag tells its option. -/
theorem ofFlag?_eq_some_iff {flag : Text} {option : ValueOption} :
    ofFlag? flag = some option ↔ flag = option.flag := by
  constructor
  · intro hfound
    have hsame := List.find?_some hfound
    exact (beq_iff_eq.mp hsame).symm
  · rintro rfl
    cases option <;> decide

/-- Each option has a flag, and each flag is for an option. -/
theorem mem_flags_iff {flag : Text} : flag ∈ flags ↔ ∃ option : ValueOption, flag = option.flag := by
  have hall : ∀ flag ∈ flags, ∃ option ∈ all, flag = option.flag := by decide +kernel
  constructor
  · intro hmem
    obtain ⟨option, -, hflag⟩ := hall flag hmem
    exact ⟨option, hflag⟩
  · rintro ⟨option, rfl⟩
    cases option <;> decide

theorem mem_all (option : ValueOption) : option ∈ all := by
  cases option <;> decide

/-- Each plain setting has an option of its own. -/
theorem setting?_inj {option other : ValueOption} {setting : Text}
    (hoption : option.setting? = some setting) (hother : other.setting? = some setting) :
    option = other := by
  have hall : ∀ option ∈ all, ∀ other ∈ all, option.setting?.isSome = true →
      option.setting? = other.setting? → option = other := by decide +kernel
  exact hall option option.mem_all other other.mem_all (by rw [hoption]; rfl) (hoption.trans hother.symm)

/-- No setting of an option can be mistaken for the namespace, which is put together from two. -/
theorem setting?_ne_namespace (option : ValueOption) : option.setting? ≠ some "namespace".toList := by
  cases option <;> decide

/-- No flag has an equals sign, so an argument that joins a flag and a value is cut behind the flag.
-/
theorem equals_not_mem_flag (option : ValueOption) : '=' ∉ option.flag := by
  cases option <;> decide

theorem isHelp_flag (option : ValueOption) : isHelp option.flag = false := by
  cases option <;> decide

end ValueOption

theorem Item.after_given (read : Arguments) (option : ValueOption) (value : Text) :
    (Item.given option.flag value).after read = read.give option value := by
  rw [after, ValueOption.ofFlag?_eq_some_iff.mpr rfl]

theorem isHelp_of_equals_mem {argument : Text} (hmem : '=' ∈ argument) : isHelp argument = false := by
  simp only [isHelp, Bool.or_eq_false_iff, decide_eq_false_iff_not]
  constructor <;> (rintro rfl; revert hmem; decide)

/-- A flag of an option takes any value that is not empty. -/
theorem giveFlag_flag (read : Arguments) (argument : Text) (option : ValueOption) {value : Text}
    (hvalue : value ≠ []) : giveFlag read argument option.flag value = .ok (read.give option value) := by
  rw [giveFlag, ValueOption.ofFlag?_eq_some_iff.mpr rfl]
  exact if_neg hvalue

/-- Only the flags of options take a value, and an empty one is refused. -/
theorem giveFlag_eq_ok {read result : Arguments} {argument flag value : Text}
    (hgive : giveFlag read argument flag value = .ok result) :
    ∃ option : ValueOption, flag = option.flag ∧ value ≠ [] ∧ result = read.give option value := by
  unfold giveFlag at hgive
  split at hgive
  · cases hgive
  · next option hoption =>
    split at hgive
    · cases hgive
    · next hvalue =>
      cases hgive
      exact ⟨option, ValueOption.ofFlag?_eq_some_iff.mp hoption, hvalue, rfl⟩

/-- All that is ever said against a command line. -/
theorem giveFlag_eq_error {read : Arguments} {argument flag value : Text} {failure : Failure}
    (hgive : giveFlag read argument flag value = .error failure) :
    ∃ reason, failure = usageFailure reason := by
  unfold giveFlag at hgive
  split at hgive
  · cases hgive
    exact ⟨_, rfl⟩
  · split at hgive
    · cases hgive
      exact ⟨_, rfl⟩
    · cases hgive

/-! ### Reading arguments -/

/-- A request for help stands alone and does not end the reading. -/
theorem readFrom_help {argument : Text} (hhelp : isHelp argument = true) (read : Arguments)
    (rest : List Text) : readFrom read (argument :: rest) = readFrom (Item.help.after read) rest := by
  rw [readFrom.eq_def]
  simp only [hhelp, ↓reduceIte]
  rfl

theorem readFrom_joined {argument flag value : Text} (hhelp : ¬ isHelp argument = true)
    (hsplit : Text.splitFirst? '=' argument = some (flag, value)) (read : Arguments)
    (rest : List Text) :
    readFrom read (argument :: rest) =
      giveFlag read argument flag value >>= fun read => readFrom read rest := by
  rw [readFrom.eq_def]
  simp only [hhelp, hsplit, Bool.false_eq_true, ↓reduceIte]

/-- A flag takes the argument after it, even if that looks like a flag. -/
theorem readFrom_apart {argument : Text} (hhelp : ¬ isHelp argument = true)
    (hsplit : Text.splitFirst? '=' argument = none) (read : Arguments) (value : Text)
    (rest : List Text) :
    readFrom read (argument :: value :: rest) =
      giveFlag read argument argument value >>= fun read => readFrom read rest := by
  rw [readFrom.eq_def]
  simp only [hhelp, hsplit, Bool.false_eq_true, ↓reduceIte]

/-- A flag without an argument after it has an empty value, which is refused. -/
theorem readFrom_last {argument : Text} (hhelp : ¬ isHelp argument = true)
    (hsplit : Text.splitFirst? '=' argument = none) (read : Arguments) :
    readFrom read [argument] = giveFlag read argument argument [] := by
  rw [readFrom.eq_def]
  simp only [hhelp, hsplit, Bool.false_eq_true, ↓reduceIte]

/-- An item is read in any spelling, whatever follows it. -/
theorem readFrom_item {item : Item} {arguments : List Text} (hitem : item.SpelledAs arguments)
    (read : Arguments) (rest : List Text) :
    readFrom read (arguments ++ rest) = readFrom (item.after read) rest := by
  cases hitem with
  | long => exact readFrom_help (by decide) read rest
  | short => exact readFrom_help (by decide) read rest
  | @apart flag value hflag hvalue =>
    obtain ⟨option, rfl⟩ := ValueOption.mem_flags_iff.mp hflag
    refine (readFrom_apart (by simp [option.isHelp_flag])
      (Text.splitFirst?_eq_none option.equals_not_mem_flag) read value rest).trans ?_
    rw [giveFlag_flag read _ option hvalue, Item.after_given]
    rfl
  | @joined flag value hflag hvalue =>
    obtain ⟨option, rfl⟩ := ValueOption.mem_flags_iff.mp hflag
    refine (readFrom_joined (by simp [isHelp_of_equals_mem])
      (Text.splitFirst?_append option.equals_not_mem_flag value) read rest).trans ?_
    rw [giveFlag_flag read _ option hvalue, Item.after_given]
    rfl

/-- Items are read one after another. -/
theorem Spells.readFrom_eq {items : List Item} {argv : List Text} (hspells : Spells items argv)
    (read : Arguments) : readFrom read argv = .ok (items.foldl Item.after read) := by
  induction hspells generalizing read with
  | nil => rw [readFrom.eq_def, List.foldl_nil]
  | cons hitem _ ih => rw [readFrom_item hitem, ih, List.foldl_cons]

theorem spelledAs_of_isHelp {argument : Text} (hhelp : isHelp argument = true) :
    Item.help.SpelledAs [argument] := by
  simp only [isHelp, Bool.or_eq_true, decide_eq_true_eq] at hhelp
  rcases hhelp with rfl | rfl
  · exact .long
  · exact .short

/-- What is read is made of items. -/
theorem exists_spells_of_readFrom {read result : Arguments} {argv : List Text}
    (hread : readFrom read argv = .ok result) : ∃ items, Spells items argv := by
  -- The cases of the reader: no argument, help, a joined value, a flag at the end, a value apart.
  induction read, argv using readFrom.induct with
  | case1 => exact ⟨[], .nil⟩
  | case2 read argument rest hhelp ih =>
    rw [readFrom_help hhelp] at hread
    obtain ⟨items, hitems⟩ := ih hread
    exact ⟨_, .cons (spelledAs_of_isHelp hhelp) hitems⟩
  | case3 read argument rest hhelp flag value hsplit ih =>
    rw [readFrom_joined hhelp hsplit] at hread
    obtain ⟨given, hgive, hrest⟩ := bind_eq_ok_iff.mp hread
    obtain ⟨option, rfl, hvalue, -⟩ := giveFlag_eq_ok hgive
    obtain ⟨items, hitems⟩ := ih given hrest
    obtain ⟨rfl, -⟩ := Text.splitFirst?_eq_some_iff.mp hsplit
    exact ⟨_, .cons (.joined (ValueOption.mem_flags_iff.mpr ⟨option, rfl⟩) hvalue) hitems⟩
  | case4 read argument hhelp hsplit =>
    rw [readFrom_last hhelp hsplit] at hread
    obtain ⟨-, -, hvalue, -⟩ := giveFlag_eq_ok hread
    exact absurd rfl hvalue
  | case5 read argument hhelp hsplit value rest ih =>
    rw [readFrom_apart hhelp hsplit] at hread
    obtain ⟨given, hgive, hrest⟩ := bind_eq_ok_iff.mp hread
    obtain ⟨option, rfl, hvalue, -⟩ := giveFlag_eq_ok hgive
    obtain ⟨items, hitems⟩ := ih given hrest
    exact ⟨_, .cons (.apart (ValueOption.mem_flags_iff.mpr ⟨option, rfl⟩) hvalue) hitems⟩

/-- What is not read is refused for its usage. -/
theorem exists_usageFailure_of_readFrom {read : Arguments} {argv : List Text} {failure : Failure}
    (hread : readFrom read argv = .error failure) : ∃ reason, failure = usageFailure reason := by
  induction read, argv using readFrom.induct with
  | case1 =>
    rw [readFrom.eq_def] at hread
    cases hread
  | case2 read argument rest hhelp ih =>
    rw [readFrom_help hhelp] at hread
    exact ih hread
  | case3 read argument rest hhelp flag value hsplit ih =>
    rw [readFrom_joined hhelp hsplit] at hread
    rcases bind_eq_error_iff.mp hread with hgive | ⟨given, -, hrest⟩
    · exact giveFlag_eq_error hgive
    · exact ih given hrest
  | case4 read argument hhelp hsplit =>
    rw [readFrom_last hhelp hsplit] at hread
    exact giveFlag_eq_error hread
  | case5 read argument hhelp hsplit value rest ih =>
    rw [readFrom_apart hhelp hsplit] at hread
    rcases bind_eq_error_iff.mp hread with hgive | ⟨given, -, hrest⟩
    · exact giveFlag_eq_error hgive
    · exact ih given hrest

/-! ### What items say -/

/-- The last item decides if it is for the flag. -/
theorem lastValue?_append_singleton (flag : Text) (items : List Item) (item : Item) :
    lastValue? flag (items ++ [item]) = (item.value? flag).or (lastValue? flag items) := by
  unfold lastValue?
  rw [List.filterMap_append]
  cases hvalue : item.value? flag <;> simp [hvalue]

/-- An item changes the value of the option that its flag is for, and no other. -/
theorem value_after (read : Arguments) (item : Item) (option : ValueOption) :
    (item.after read).value option = (item.value? option.flag).or (read.value option) := by
  cases item with
  | help => rfl
  | given flag value =>
    by_cases hsame : flag = option.flag
    · rw [hsame, Item.after_given]
      simp [Arguments.give, Item.value?]
    · cases hoption : ValueOption.ofFlag? flag with
      | none => simp [Item.after, hoption, Item.value?, hsame]
      | some other =>
        have hother : option ≠ other := by
          rintro rfl
          exact hsame (ValueOption.ofFlag?_eq_some_iff.mp hoption)
        simp [Item.after, hoption, Arguments.give, Item.value?, hsame, hother]

/-- The last value of each option counts. -/
theorem value_foldl_after (items : List Item) (option : ValueOption) :
    (items.foldl Item.after .none).value option = lastValue? option.flag items := by
  induction items using List.reverseRecOn with
  | nil => rfl
  | append_singleton items item ih =>
    rw [List.foldl_append, List.foldl_cons, List.foldl_nil, value_after, ih,
      lastValue?_append_singleton]

theorem help_after (read : Arguments) (item : Item) :
    (item.after read).help = true ↔ read.help = true ∨ Item.help = item := by
  cases item with
  | help => simp [Item.after]
  | given flag value =>
    simp only [Item.after, reduceCtorEq, or_false]
    split <;> rfl

theorem help_foldl_after (items : List Item) :
    (items.foldl Item.after .none).help = true ↔ Item.help ∈ items := by
  induction items using List.reverseRecOn with
  | nil => simp [Arguments.none]
  | append_singleton items item ih =>
    rw [List.foldl_append, List.foldl_cons, List.foldl_nil, help_after, ih, List.mem_append,
      List.mem_singleton]

/-! ### The settings on a command line -/

/-- The settings that have a value of their own, each behind its flag. -/
def plainFlags : List (Text × Text) :=
  [("--exporter", "exporterPath"), ("--config", "definitionsPath"), ("--host", "host"),
    ("--port", "port"), ("--smp", "smp"), ("--prometheus", "prometheusUrl"),
    ("--prometheus-scrape-interval", "scrapeIntervalSeconds")]

/-- The table of flags and settings says of each option what the option says itself. -/
theorem mem_plainFlags_iff {flag setting : Text} : (flag, setting) ∈ plainFlags ↔
    ∃ option : ValueOption, flag = option.flag ∧ option.setting? = some setting := by
  have hall : ∀ pair ∈ plainFlags, ∃ option ∈ ValueOption.all,
      pair.1 = option.flag ∧ option.setting? = some pair.2 := by decide +kernel
  have hback : ∀ option ∈ ValueOption.all, ∀ setting ∈ option.setting?,
      (option.flag, setting) ∈ plainFlags := by decide +kernel
  constructor
  · intro hmem
    obtain ⟨option, -, hoption⟩ := hall _ hmem
    exact ⟨option, hoption⟩
  · rintro ⟨option, rfl, hsetting⟩
    exact hback option option.mem_all setting hsetting

namespace Arguments

/-- The plain settings that were given. -/
def plainSettings (arguments : Arguments) : List (Text × Document) :=
  ValueOption.all.filterMap fun option => do
    return (← option.setting?, Document.text (← arguments.value option))

/-- The namespace as a setting. -/
def spaceDocument (space : Namespace) : Document :=
  .ofTexts [("prefix", space.pre), ("group", space.group)]

theorem toDocument_eq (arguments : Arguments) :
    arguments.toDocument = .ofPairs (arguments.plainSettings ++
      (arguments.space?.map fun space => ("namespace".toList, spaceDocument space)).toList) := rfl

/-- A setting is there exactly if its option was given. -/
theorem mem_plainSettings_iff {arguments : Arguments} {name : Text} {document : Document} :
    (name, document) ∈ arguments.plainSettings ↔
      ∃ option value, option.setting? = some name ∧ arguments.value option = some value ∧
        document = .text value := by
  simp only [plainSettings, List.mem_filterMap, ValueOption.mem_all, true_and, bind, pure,
    Option.bind_eq_some_iff, Option.some.injEq, Prod.mk.injEq]
  constructor
  · rintro ⟨option, _, hsetting, value, hvalue, rfl, rfl⟩
    exact ⟨option, value, hsetting, hvalue, rfl⟩
  · rintro ⟨option, value, hsetting, hvalue, rfl⟩
    exact ⟨option, name, hsetting, value, hvalue, rfl, rfl⟩

/-- Settings come in the order of the options, not in that of the command line. -/
theorem names_plainSettings_sublist (arguments : Arguments) :
    (arguments.plainSettings.map Prod.fst).Sublist (ValueOption.all.filterMap ValueOption.setting?) := by
  unfold plainSettings
  induction ValueOption.all with
  | nil => exact .slnil
  | cons option options ih =>
    cases hsetting : option.setting? with
    | none => simpa [hsetting] using ih
    | some setting =>
      cases hvalue : arguments.value option with
      | none => simpa [hsetting, hvalue] using ih.cons setting
      | some value => simpa [hsetting, hvalue] using ih

/-- No two settings have the same name, so none hides another in the document. -/
theorem nodup_names (arguments : Arguments) :
    ((arguments.plainSettings ++ (arguments.space?.map fun space =>
      ("namespace".toList, spaceDocument space)).toList).map Prod.fst).Nodup := by
  have hall : (ValueOption.all.filterMap ValueOption.setting? ++ ["namespace".toList]).Nodup := by
    decide
  refine List.Nodup.sublist ?_ hall
  rw [List.map_append]
  refine arguments.names_plainSettings_sublist.append ?_
  cases arguments.space? <;> simp

/-- A plain setting is there exactly if its option was given a value. -/
theorem member?_of_setting {option : ValueOption} {setting : Text}
    (hsetting : option.setting? = some setting) (arguments : Arguments) :
    arguments.toDocument.member? setting = (arguments.value option).map .text := by
  refine Option.ext fun document => ?_
  rw [toDocument_eq]
  refine (Entries.lookup_ofPairs_eq_some_iff arguments.nodup_names).trans ?_
  rw [List.mem_append, mem_plainSettings_iff, Option.map_eq_some_iff]
  constructor
  · rintro (⟨other, value, hother, hvalue, rfl⟩ | hspace)
    · exact ⟨value, ValueOption.setting?_inj hother hsetting ▸ hvalue, rfl⟩
    · obtain ⟨space, -, hpair⟩ := Option.map_eq_some_iff.mp (Option.mem_toList.mp hspace)
      rw [← (Prod.mk.inj hpair).1] at hsetting
      exact absurd hsetting option.setting?_ne_namespace
  · rintro ⟨value, hvalue, rfl⟩
    exact .inl ⟨option, value, hsetting, hvalue, rfl⟩

/-- The namespace is there exactly if a part of it was given. -/
theorem member?_namespace (arguments : Arguments) :
    arguments.toDocument.member? "namespace" = arguments.space?.map spaceDocument := by
  refine Option.ext fun document => ?_
  rw [toDocument_eq]
  refine (Entries.lookup_ofPairs_eq_some_iff arguments.nodup_names).trans ?_
  rw [List.mem_append, mem_plainSettings_iff, Option.map_eq_some_iff]
  constructor
  · rintro (⟨option, -, hsetting, -⟩ | hspace)
    · exact absurd hsetting option.setting?_ne_namespace
    · obtain ⟨space, hspace, hpair⟩ := Option.map_eq_some_iff.mp (Option.mem_toList.mp hspace)
      exact ⟨space, hspace, (Prod.mk.inj hpair).2⟩
  · rintro ⟨space, hspace, rfl⟩
    exact .inr (Option.mem_toList.mpr (Option.map_eq_some_iff.mpr ⟨space, hspace, rfl⟩))

/-- What is there is a setting of an option, or the namespace. -/
theorem setting_of_member? {arguments : Arguments} {setting : Text}
    (hmember : (arguments.toDocument.member? setting).isSome = true) :
    setting = "namespace".toList ∨ setting ∈ plainFlags.map Prod.snd := by
  obtain ⟨document, hdocument⟩ := Option.isSome_iff_exists.mp hmember
  rw [toDocument_eq] at hdocument
  have hmem := (Entries.lookup_ofPairs_eq_some_iff arguments.nodup_names).mp hdocument
  rw [List.mem_append, mem_plainSettings_iff] at hmem
  rcases hmem with ⟨option, -, hsetting, -⟩ | hspace
  · exact .inr (List.mem_map_of_mem (mem_plainFlags_iff.mpr ⟨option, rfl, hsetting⟩))
  · obtain ⟨space, -, hpair⟩ := Option.map_eq_some_iff.mp (Option.mem_toList.mp hspace)
    exact .inl (Prod.mk.inj hpair).1.symm

end Arguments

theorem Spells.read_eq {items : List Item} {argv : List Text} (hspells : Spells items argv) :
    read argv = .ok (items.foldl Item.after .none) :=
  hspells.readFrom_eq .none

/-- A command line is read exactly if it is made of items, and fails as a usage error otherwise. It
says the same in every spelling: help is asked for if some item asks for it, each plain setting has
the value of the last item with its flag, and the namespace has the last value of each part, or the
standard one for a part that only the other was given beside. There are no other settings. -/
theorem reads_items_in_any_spelling (argv : List Text) :
    let plain : List (Text × Text) := [("--exporter", "exporterPath"), ("--config", "definitionsPath"),
      ("--host", "host"), ("--port", "port"), ("--smp", "smp"), ("--prometheus", "prometheusUrl"),
      ("--prometheus-scrape-interval", "scrapeIntervalSeconds")]
    ((∃ arguments, read argv = .ok arguments) ↔ ∃ items, Spells items argv) ∧
    (∀ items, Spells items argv →
      (∀ other, Spells items other → read other = read argv) ∧
      ∃ arguments, read argv = .ok arguments ∧
        (arguments.help = true ↔ Item.help ∈ items) ∧
        (∀ flag setting, (flag, setting) ∈ plain →
          arguments.toDocument.member? setting = (lastValue? flag items).map .text) ∧
        (arguments.toDocument.member? "namespace" =
          match lastValue? "--prefix" items, lastValue? "--group" items with
          | none, none => none
          | pre, group => some (.ofTexts [
            ("prefix", pre.getD Namespace.standard.pre),
            ("group", group.getD Namespace.standard.group)])) ∧
        ∀ setting, (arguments.toDocument.member? setting).isSome = true →
          setting = "namespace".toList ∨ setting ∈ plain.map Prod.snd) ∧
    ((¬ ∃ items, Spells items argv) → ∃ failure, read argv = .error failure ∧
      failure.code? = some ErrorCode.invalidConfig.name) := by
  intro plain
  have hmade : (∃ arguments, read argv = .ok arguments) ↔ ∃ items, Spells items argv :=
    ⟨fun ⟨_, hread⟩ => exists_spells_of_readFrom hread, fun ⟨_, hspells⟩ => ⟨_, hspells.read_eq⟩⟩
  refine ⟨hmade, fun items hspells => ⟨fun other hother => ?_, _, hspells.read_eq,
    help_foldl_after items, fun flag setting hmem => ?_, ?_, fun setting hmember => ?_⟩,
    fun hnone => ?_⟩
  · rw [hother.read_eq, hspells.read_eq]
  · obtain ⟨option, rfl, hsetting⟩ := mem_plainFlags_iff.mp hmem
    rw [Arguments.member?_of_setting hsetting, value_foldl_after]
  · have hpre : ValueOption.namePrefix.flag = "--prefix".toList := rfl
    have hgroup : ValueOption.group.flag = "--group".toList := rfl
    rw [Arguments.member?_namespace, Arguments.space?, value_foldl_after, value_foldl_after, hpre,
      hgroup]
    cases lastValue? "--prefix" items <;> cases lastValue? "--group" items <;> rfl
  · exact Arguments.setting_of_member? hmember
  · cases hread : read argv with
    | ok arguments => exact absurd (hmade.mp ⟨arguments, hread⟩) hnone
    | error failure =>
      obtain ⟨reason, rfl⟩ := exists_usageFailure_of_readFrom hread
      exact ⟨_, rfl, rfl⟩

/-- Settings in both spellings, one of them twice, and a value that looks like an option. -/
def mixedArguments : List Text :=
  ["--exporter=./expose", "--smp", "2", "-h", "--smp=a=8", "--group", "--prefix"]

theorem reads_items_in_any_spelling_mixedArguments :
    ∃ arguments, read mixedArguments = .ok arguments ∧ arguments.help = true ∧
      arguments.toDocument.member? "exporterPath" = some (.text "./expose") ∧
      arguments.toDocument.member? "smp" = some (.text "a=8") ∧
      arguments.toDocument.member? "host" = none ∧
      arguments.toDocument.member? "namespace" =
        some (.ofTexts [("prefix", "seastar"), ("group", "--prefix")]) := by
  obtain ⟨-, hread, -⟩ := reads_items_in_any_spelling mixedArguments
  let items : List Item := [.given "--exporter" "./expose", .given "--smp" "2", .help,
    .given "--smp" "a=8", .given "--group" "--prefix"]
  have hspells : Spells items mixedArguments :=
    .cons (.joined (by decide) (by decide)) (.cons (.apart (by decide) (by decide)) (.cons .short
      (.cons (.joined (by decide) (by decide)) (.cons (.apart (by decide) (by decide)) .nil))))
  obtain ⟨-, arguments, hok, hhelp, hplain, hspace, -⟩ := hread items hspells
  refine ⟨arguments, hok, hhelp.mpr (by decide), ?_, ?_, ?_, ?_⟩
  · exact hplain "--exporter" "exporterPath" (by decide)
  · exact hplain "--smp" "smp" (by decide)
  · exact hplain "--host" "host" (by decide)
  · have hpre : lastValue? "--prefix" items = none := by decide
    have hgroup : lastValue? "--group" items = some "--prefix".toList := by decide
    rw [hspace, hpre, hgroup]
    rfl

end ExporterAudit.CommandLine
