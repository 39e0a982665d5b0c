import ExporterAudit.Audit
import ExporterAudit.Proofs.Check.Running

/-!
How an audit treats the exporter. It asks nothing of one that has not started, and one that has
started is stopped once, after all else, whatever the checks ran into.
-/

namespace ExporterAudit

namespace Summary

/-- Each result is passed, failed or skipped, so the three numbers add up. -/
theorem parts_eq_length (results : List CheckResult) :
    (ofResults results).passed + (ofResults results).failed + (ofResults results).skipped =
      results.length := by
  induction results with
  | nil => rfl
  | cons result rest ih =>
    obtain ⟨name, verdict⟩ := result
    simp only [ofResults] at ih
    cases verdict <;>
      simp [ofResults, List.countP_cons, CheckResult.isPassed, CheckResult.isFailed,
        CheckResult.isSkipped] <;>
      omega

theorem failed_pos_iff (results : List CheckResult) :
    0 < (ofResults results).failed ↔ ∃ result ∈ results, result.isFailed = true :=
  List.countP_pos_iff

end Summary

namespace Action

/-- What can only be done to an exporter that runs. -/
def NeedsExporter : Action → Prop
  | .stop => True
  | action => action.IsInquiry

end Action

namespace Session

theorem printed_append (first second : List Action) :
    printed (first ++ second) = printed first ++ printed second :=
  List.filterMap_append

theorem printed_of_inquiries {actions : List Action}
    (hinquiries : ∀ action ∈ actions, action.IsInquiry) : printed actions = [] := by
  refine List.filterMap_eq_nil_iff.mpr fun action hmem => ?_
  have hinquiry := hinquiries action hmem
  cases action with
  | print line => exact hinquiry.elim
  | request | sleep | start | stop | complain => rfl

theorem printed_map_print (lines : List Text) : printed (lines.map Action.print) = lines := by
  rw [printed, List.filterMap_map]
  exact List.filterMap_some

end Session

namespace Audit

/-- Why an audit does not come to start the exporter. -/
inductive Unprepared (files : FileReader) (argv : List Text) (failure : Failure) : Prop
  | arguments (hread : CommandLine.read argv = .error failure)
  | settings {arguments : CommandLine.Arguments} (hread : CommandLine.read argv = .ok arguments)
      (hhelp : arguments.help = false)
      (hsettings : Settings.ofDocument arguments.toDocument = .error failure)
  | definitions {arguments : CommandLine.Arguments} {settings : Settings}
      (hread : CommandLine.read argv = .ok arguments) (hhelp : arguments.help = false)
      (hsettings : Settings.ofDocument arguments.toDocument = .ok settings)
      (hdefinitions : readDefinitions files settings.definitionsPath = .error failure)

/-- The settings and definitions that a command line leads to. -/
inductive Prepared (files : FileReader) (argv : List Text) (settings : Settings)
    (definitions : List Definition) : Prop
  | intro {arguments : CommandLine.Arguments} (hread : CommandLine.read argv = .ok arguments)
      (hhelp : arguments.help = false)
      (hsettings : Settings.ofDocument arguments.toDocument = .ok settings)
      (hdefinitions : readDefinitions files settings.definitionsPath = .ok definitions)

/-- A command line that can be read and asks for help. -/
def AsksForHelp (argv : List Text) : Prop :=
  ∃ arguments, CommandLine.read argv = .ok arguments ∧ arguments.help = true

/-- An audit is kept from the start, or asks for help, or comes to the start. -/
theorem preparation_cases (files : FileReader) (argv : List Text) :
    (∃ failure, Unprepared files argv failure) ∨ AsksForHelp argv ∨
      ∃ settings definitions, Prepared files argv settings definitions := by
  cases hread : CommandLine.read argv with
  | error failure => exact .inl ⟨failure, .arguments hread⟩
  | ok arguments =>
    cases hhelp : arguments.help with
    | true => exact .inr (.inl ⟨arguments, hread, hhelp⟩)
    | false =>
      cases hsettings : Settings.ofDocument arguments.toDocument with
      | error failure => exact .inl ⟨failure, .settings hread hhelp hsettings⟩
      | ok settings =>
        cases hdefinitions : readDefinitions files settings.definitionsPath with
        | error failure => exact .inl ⟨failure, .definitions hread hhelp hsettings hdefinitions⟩
        | ok definitions =>
          exact .inr (.inr ⟨settings, definitions, .intro hread hhelp hsettings hdefinitions⟩)

variable {outside : Surroundings} {argv : List Text}

/-- What cannot be prepared is refused before the exporter is started. -/
theorem run_of_unprepared {failure : Failure} (hfails : Unprepared outside.files argv failure) :
    run outside argv = refuse failure := by
  cases hfails with
  | arguments hread => rw [run, hread]
  | settings hread hhelp hsettings =>
    simp [run, hread, hhelp, prepare, hsettings, bind, Except.bind]
  | definitions hread hhelp hsettings hdefinitions =>
    simp [run, hread, hhelp, prepare, hsettings, hdefinitions, bind, Except.bind]

/-- A request for help is answered without looking at the settings. -/
theorem run_of_help (hasks : AsksForHelp argv) :
    run outside argv = ⟨[.print CommandLine.helpText], .ok .ok⟩ := by
  obtain ⟨arguments, hread, hhelp⟩ := hasks
  simp only [run, hread, hhelp]
  rfl

/-- Prepared settings and definitions go on to the exporter. -/
theorem run_of_prepared {settings : Settings} {definitions : List Definition}
    (hprepared : Prepared outside.files argv settings definitions) :
    run outside argv = auditExporter outside settings definitions := by
  obtain ⟨hread, hhelp, hsettings, hdefinitions⟩ := hprepared
  simp [run, hread, hhelp, prepare, hsettings, hdefinitions, bind, Except.bind, pure, Except.pure]

/-! ### The parts of an audit -/

/-- A failure of settings or definitions is complained about, with a code of its own. -/
theorem outcome_refuse_of_config {failure : Failure} (hconfig : failure.category? = some .config) :
    (refuse failure).outcome = .ok .usage := by
  obtain ⟨code, hcode, hcategory⟩ := Option.map_eq_some_iff.mp hconfig
  simp only [refuse, hcode, if_pos hcategory]
  rfl

def IsComplaint : Action → Prop
  | .complain _ => True
  | _ => False

theorem performs_refuse (failure : Failure) : (refuse failure).Performs IsComplaint := by
  unfold refuse
  split
  · split
    · exact .bind (.act trivial) fun _ => .bind (.act trivial) fun _ => .pure _
    · exact .ofExcept _
  · exact .ofExcept _

/-- Telling why the start failed does not touch the exporter. -/
theorem performs_startFailed (failure : Failure) : (startFailed failure).Performs IsComplaint := by
  unfold startFailed
  split
  · exact .bind (.act trivial) fun _ => .pure _
  · exact .ofExcept _

/-- A failure with a code of its own is told and counts as a failed audit. -/
theorem outcome_startFailed_of_code {failure : Failure} (hcode : failure.code?.isSome = true) :
    (startFailed failure).outcome = .ok .failed := by
  obtain ⟨code, hcode⟩ := Option.isSome_iff_exists.mp hcode
  simp only [startFailed, hcode]
  rfl

/-- An exporter that does not start is asked nothing and not stopped. -/
theorem auditExporter_of_error {settings : Settings} {definitions : List Definition}
    {failure : Failure} (hstart : outside.exporter.start (exporterOptions settings) = .error failure) :
    auditExporter outside settings definitions =
      ⟨.start (exporterOptions settings) :: (startFailed failure).actions,
        (startFailed failure).outcome⟩ := by
  rw [auditExporter, Session.act_bind, hstart]

/-- The results of all checks. -/
def checkResults (context : CheckContext) : List CheckResult :=
  Check.all.map fun check => check.resultOf (check.verdict context).outcome

/-- The code that results lead to. -/
def codeOf (results : List CheckResult) : ExitCode :=
  if 0 < (Summary.ofResults results).failed then .failed else .ok

/-- What the checks ask, their results, and the code that these lead to. -/
theorem checkAndReport_of_ends {context : CheckContext}
    (hends : ∀ check ∈ Check.all, (check.verdict context).isEndless = false) :
    checkAndReport context =
      ⟨(Check.all.flatMap fun check => (check.verdict context).actions) ++
          (reportLines (checkResults context)).map Action.print,
        .ok (codeOf (checkResults context))⟩ := by
  rw [checkAndReport, Check.runAll_of_ends context hends, Session.mk_ok_bind, Session.forM_print,
    Session.mk_ok_bind, Session.actions_pure, List.append_nil]
  rfl

/-- Nothing is reported if a check does not end. -/
theorem exists_checkAndReport_of_endless {context : CheckContext} {check : Check}
    (hmem : check ∈ Check.all) (hendless : (check.verdict context).isEndless = true) :
    ∃ actions value, checkAndReport context = ⟨actions, .error (.endless value)⟩ ∧
      ∀ action ∈ actions, action.IsInquiry := by
  rcases Check.ends_cases context Check.all with hends | ⟨before, first, later, value, hall, hends, hfirst⟩
  · rw [hends check hmem] at hendless
    cases hendless
  · refine ⟨(Check.runAll context Check.all).actions, value, ?_, Check.performs_runAll context _⟩
    rw [checkAndReport, hall, Check.runAll_of_endless context hends hfirst, Session.mk_error_bind]

/-- An exporter that has started is stopped after all else, unless something before does not end. -/
theorem auditExporter_of_ok {settings : Settings} {definitions : List Definition}
    (hstart : outside.exporter.start (exporterOptions settings) = .ok ()) :
    let session := (checkAndReport (checkContext outside.network settings definitions)).followedBy
      (stopExporter outside.exporter)
    auditExporter outside settings definitions =
      ⟨.start (exporterOptions settings) :: session.actions, session.outcome⟩ := by
  intro session
  rw [auditExporter, Session.act_bind, hstart]

/-- The whole conduct where every check ends: the start, what the checks do, the report and the
stop, in this order. -/
theorem auditExporter_of_ends {settings : Settings} {definitions : List Definition}
    (hstart : outside.exporter.start (exporterOptions settings) = .ok ())
    (hends : ∀ check ∈ Check.all,
      (check.verdict (checkContext outside.network settings definitions)).isEndless = false) :
    let context := checkContext outside.network settings definitions
    auditExporter outside settings definitions =
      ⟨.start (exporterOptions settings) ::
          (Check.all.flatMap fun check => (check.verdict context).actions) ++
          (reportLines (checkResults context)).map Action.print ++ [.stop],
        outside.exporter.stop.map fun _ => codeOf (checkResults context)⟩ := by
  intro context
  rw [auditExporter_of_ok hstart]
  simp only [checkAndReport_of_ends hends, Session.followedBy, Session.isEndless, stopExporter,
    Session.act_bind]
  cases hstop : outside.exporter.stop <;> simp [Session.ofExcept, Except.map, context]

/-- All that is done to an exporter that has started, or printed. -/
def IsConduct (action : Action) : Prop :=
  action.NeedsExporter ∨ ∃ line, action = .print line

theorem performs_conduct (context : CheckContext) (exporter : ExporterBehavior) :
    ((checkAndReport context).followedBy (stopExporter exporter)).Performs IsConduct := by
  have hinquiry : ∀ action : Action, action.IsInquiry → IsConduct action := by
    intro action hinquiry
    cases action with
    | stop => exact .inl trivial
    | request | sleep | start | print | complain => exact .inl hinquiry
  refine .followedBy (.bind ?_ fun results => .bind ?_ fun _ => .pure _) ?_
  · exact (Check.performs_runAll context Check.all).mono hinquiry
  · intro action hmem
    rw [Session.forM_print] at hmem
    obtain ⟨line, -, rfl⟩ := List.mem_map.mp hmem
    exact .inr ⟨line, rfl⟩
  · exact .bind (.act (.inl trivial)) fun _ => .ofExcept _

/-! ### The whole of an audit -/

theorem not_needsExporter_of_isComplaint {action : Action} (hcomplaint : IsComplaint action) :
    ¬ action.NeedsExporter := by
  cases action with
  | complain line => exact id
  | request | sleep | start | stop | print => exact hcomplaint.elim

/-- Only an audit that is prepared comes to a start. -/
theorem prepared_of_start_mem {options : Exporter.Options}
    (hmem : Action.start options ∈ (run outside argv).actions) :
    ∃ settings definitions, Prepared outside.files argv settings definitions ∧
      options = exporterOptions settings := by
  rcases preparation_cases outside.files argv with
    ⟨failure, hfails⟩ | hasks | ⟨settings, definitions, hprepared⟩
  · rw [run_of_unprepared hfails] at hmem
    exact (performs_refuse failure _ hmem).elim
  · simp [run_of_help hasks] at hmem
  · refine ⟨settings, definitions, hprepared, ?_⟩
    rw [run_of_prepared hprepared] at hmem
    cases hstart : outside.exporter.start (exporterOptions settings) with
    | error failure =>
      rw [auditExporter_of_error hstart, List.mem_cons] at hmem
      rcases hmem with hmem | hmem
      · exact Action.start.inj hmem
      · exact (performs_startFailed failure _ hmem).elim
    | ok started =>
      rw [auditExporter_of_ok hstart] at hmem
      rcases List.mem_cons.mp hmem with hmem | hmem
      · exact Action.start.inj hmem
      · rcases performs_conduct _ _ _ hmem with hneeds | ⟨line, hline⟩
        · exact hneeds.elim
        · cases hline

/-- Before anything that needs the exporter there is a start that has succeeded. -/
theorem start_mem_before {before later : List Action} {action : Action}
    (hactions : (run outside argv).actions = before ++ action :: later)
    (hneeds : action.NeedsExporter) :
    ∃ options, .start options ∈ before ∧ outside.exporter.start options = .ok () := by
  have hmem : action ∈ (run outside argv).actions := by simp [hactions]
  rcases preparation_cases outside.files argv with
    ⟨failure, hfails⟩ | hasks | ⟨settings, definitions, hprepared⟩
  · rw [run_of_unprepared hfails] at hmem
    exact absurd hneeds (not_needsExporter_of_isComplaint (performs_refuse failure _ hmem))
  · rw [run_of_help hasks, List.mem_singleton] at hmem
    exact (hmem ▸ hneeds).elim
  · refine ⟨exporterOptions settings, ?_⟩
    rw [run_of_prepared hprepared] at hactions hmem
    cases hstart : outside.exporter.start (exporterOptions settings) with
    | error failure =>
      rw [auditExporter_of_error hstart, List.mem_cons] at hmem
      rcases hmem with rfl | hmem
      · exact hneeds.elim
      · exact absurd hneeds (not_needsExporter_of_isComplaint (performs_startFailed failure _ hmem))
    | ok started =>
      rw [auditExporter_of_ok hstart] at hactions
      -- The start comes first, and is none of the actions that need the exporter.
      cases before with
      | nil =>
        cases (List.cons.inj hactions).1
        exact hneeds.elim
      | cons first others =>
        rw [← (List.cons.inj hactions).1]
        exact ⟨List.mem_cons_self, rfl⟩

/-- An audit whose exporter has started and whose checks all end: what it has done before it stops the
exporter, and what it has printed. -/
theorem actions_of_ends {settings : Settings} {definitions : List Definition}
    (hprepared : Prepared outside.files argv settings definitions)
    (hstart : outside.exporter.start (exporterOptions settings) = .ok ())
    (hends : ∀ check ∈ Check.all,
      (check.verdict (checkContext outside.network settings definitions)).isEndless = false) :
    ∃ before, (run outside argv).actions = before ++ [.stop] ∧ Action.stop ∉ before ∧
      Session.printed before =
        reportLines (checkResults (checkContext outside.network settings definitions)) := by
  have hinquiries : ∀ action ∈ Check.all.flatMap fun check =>
      (check.verdict (checkContext outside.network settings definitions)).actions,
      action.IsInquiry := by
    intro action hmem
    obtain ⟨check, -, hmem⟩ := List.mem_flatMap.mp hmem
    exact Check.performs_verdict _ check action hmem
  rw [run_of_prepared hprepared, auditExporter_of_ends hstart hends]
  refine ⟨_, rfl, ?_, ?_⟩
  · simp only [List.cons_append, List.mem_cons, List.mem_append, List.mem_map, reduceCtorEq,
      and_false, exists_false, or_false, false_or]
    exact fun hmem => hinquiries _ hmem
  · rw [List.cons_append, ← List.singleton_append, Session.printed_append, Session.printed_append,
      Session.printed_of_inquiries hinquiries, Session.printed_map_print]
    rfl

/-- The code of the audit tells what the checks found, unless stopping fails. -/
theorem outcome_of_ends {settings : Settings} {definitions : List Definition}
    (hprepared : Prepared outside.files argv settings definitions)
    (hstart : outside.exporter.start (exporterOptions settings) = .ok ())
    (hends : ∀ check ∈ Check.all,
      (check.verdict (checkContext outside.network settings definitions)).isEndless = false) :
    (run outside argv).outcome = outside.exporter.stop.map fun _ =>
      codeOf (checkResults (checkContext outside.network settings definitions)) := by
  rw [run_of_prepared hprepared, auditExporter_of_ends hstart hends]

/-- An audit of which a check does not end: it prints nothing and leaves the exporter running. -/
theorem exists_run_of_endless {settings : Settings} {definitions : List Definition}
    (hprepared : Prepared outside.files argv settings definitions)
    (hstart : outside.exporter.start (exporterOptions settings) = .ok ()) {check : Check}
    (hmem : check ∈ Check.all)
    (hendless :
      (check.verdict (checkContext outside.network settings definitions)).isEndless = true) :
    ∃ actions value, run outside argv =
        ⟨.start (exporterOptions settings) :: actions, .error (.endless value)⟩ ∧
      ∀ action ∈ actions, action.IsInquiry := by
  obtain ⟨actions, value, hchecks, hinquiries⟩ := exists_checkAndReport_of_endless hmem hendless
  refine ⟨actions, value, ?_, hinquiries⟩
  rw [run_of_prepared hprepared, auditExporter_of_ok hstart, hchecks]
  rfl

/-- Skipped checks do not count against the exporter. -/
theorem number_codeOf (results : List CheckResult) :
    (codeOf results).number = if ∃ result ∈ results, result.isFailed = true then 1 else 0 := by
  simp only [codeOf, Summary.failed_pos_iff]
  split <;> rfl

/-- What a started audit comes to if all its checks end: the exporter is stopped once and after all
else. The report has a line for each check and a summary, and the code tells whether a check failed,
unless stopping fails, which then is the outcome. -/
structure Concluded (session : Session ExitCode) (results : List CheckResult)
    (stop : Except Failure Unit) : Prop where
  stopped : ∃ before, session.actions = before ++ [.stop] ∧ Action.stop ∉ before
  names : results.map CheckResult.name = Check.all.map Check.name
  report : Session.printed session.actions =
    results.map CheckResult.toText ++ [(Summary.ofResults results).toText]
  parts : (Summary.ofResults results).passed + (Summary.ofResults results).failed +
    (Summary.ofResults results).skipped = Check.all.length
  code : stop = .ok () → session.outcome.map ExitCode.number =
    .ok (if ∃ result ∈ results, result.isFailed = true then 1 else 0)
  failure : ∀ failure, stop = .error failure → session.outcome = .error failure

theorem concluded_of_ends {settings : Settings} {definitions : List Definition}
    (hprepared : Prepared outside.files argv settings definitions)
    (hstart : outside.exporter.start (exporterOptions settings) = .ok ())
    (hends : ∀ check ∈ Check.all,
      (check.verdict (checkContext outside.network settings definitions)).isEndless = false) :
    Concluded (run outside argv) (checkResults (checkContext outside.network settings definitions))
      outside.exporter.stop := by
  obtain ⟨before, hactions, hlast, hprinted⟩ := actions_of_ends hprepared hstart hends
  have houtcome := outcome_of_ends hprepared hstart hends
  exact {
    stopped := ⟨before, hactions, hlast⟩
    names := by simp [checkResults, Function.comp_def, Check.name_resultOf]
    report := by
      rw [hactions, Session.printed_append, hprinted]
      exact List.append_nil _
    parts := by rw [Summary.parts_eq_length, checkResults, List.length_map]
    code := fun hstop => by simp only [houtcome, hstop, Except.map, number_codeOf]
    failure := fun failure hstop => by simp only [houtcome, hstop, Except.map] }

/-- A prepared audit starts its exporter, and only once. -/
theorem starts_of_prepared {settings : Settings} {definitions : List Definition}
    (hprepared : Prepared outside.files argv settings definitions) :
    Session.starts (run outside argv).actions = [exporterOptions settings] := by
  obtain ⟨rest, hactions, hrest⟩ : ∃ rest,
      (run outside argv).actions = .start (exporterOptions settings) :: rest ∧
        ∀ options, Action.start options ∉ rest := by
    rw [run_of_prepared hprepared]
    cases hstart : outside.exporter.start (exporterOptions settings) with
    | error failure =>
      refine ⟨_, by rw [auditExporter_of_error hstart], fun options hmem => ?_⟩
      exact performs_startFailed failure _ hmem
    | ok started =>
      refine ⟨_, by rw [auditExporter_of_ok hstart], fun options hmem => ?_⟩
      rcases performs_conduct _ _ _ hmem with hneeds | ⟨line, hline⟩
      · exact hneeds
      · cases hline
  have hnone : Session.starts rest = [] := by
    refine List.filterMap_eq_nil_iff.mpr fun action hmem => ?_
    cases action with
    | start options => exact absurd hmem (hrest options)
    | request | sleep | stop | print | complain => rfl
  rw [hactions, ← List.singleton_append, Session.starts, List.filterMap_append]
  change _ ++ Session.starts rest = _
  rw [hnone]
  rfl

/-- Nothing is asked of an exporter that has not started. An audit that is kept from its start by its
settings or definitions tells so, any other than a call for help starts the exporter once. One that has
started is stopped once and after all else, whatever the checks fail with; only if a check does not end
nothing more is done, and the audit does not end either. -/
theorem run_stops_what_it_starts (outside : Surroundings) (argv : List Text) :
    let session := run outside argv
    (∀ before action later, session.actions = before ++ action :: later → action.NeedsExporter →
      ∃ options, .start options ∈ before ∧ outside.exporter.start options = .ok ()) ∧
    (∀ failure, Unprepared outside.files argv failure → failure.category? = some .config →
      Session.starts session.actions = [] ∧ session.outcome.map ExitCode.number = .ok 2) ∧
    (∀ options, .start options ∈ session.actions → ∃ settings definitions,
      Prepared outside.files argv settings definitions ∧ options = exporterOptions settings) ∧
    ∀ settings definitions, Prepared outside.files argv settings definitions →
      let options := exporterOptions settings
      let context := checkContext outside.network settings definitions
      Session.starts session.actions = [options] ∧
      (∀ failure, outside.exporter.start options = .error failure →
        Action.stop ∉ session.actions ∧
        (failure.code?.isSome = true → session.outcome.map ExitCode.number = .ok 1)) ∧
      (outside.exporter.start options = .ok () →
        (∀ check ∈ Check.all, (check.verdict context).isEndless = false) →
        Concluded session (checkResults context) outside.exporter.stop) ∧
      (outside.exporter.start options = .ok () →
        (∃ check ∈ Check.all, (check.verdict context).isEndless = true) →
        session.isEndless = true ∧ Action.stop ∉ session.actions ∧
          Session.printed session.actions = []) := by
  intro session
  refine ⟨fun before action later => start_mem_before, ?_, fun options => prepared_of_start_mem, ?_⟩
  · intro failure hfails hconfig
    simp only [session, run_of_unprepared hfails]
    constructor
    · refine List.filterMap_eq_nil_iff.mpr fun action hmem => ?_
      have hcomplaint := performs_refuse failure action hmem
      cases action with
      | start options => exact hcomplaint.elim
      | request | sleep | stop | print | complain => rfl
    · rw [outcome_refuse_of_config hconfig]
      rfl
  · intro settings definitions hprepared options context
    refine ⟨starts_of_prepared hprepared, ?_, concluded_of_ends hprepared, ?_⟩
    · intro failure hstart
      simp only [session, run_of_prepared hprepared, auditExporter_of_error hstart]
      refine ⟨fun hstop => ?_, fun hcode => ?_⟩
      · rcases List.mem_cons.mp hstop with hstop | hstop
        · cases hstop
        · exact performs_startFailed failure _ hstop
      · rw [outcome_startFailed_of_code hcode]
        rfl
    · rintro hstart ⟨check, hmem, hendless⟩
      obtain ⟨actions, value, hrun, hinquiries⟩ :=
        exists_run_of_endless hprepared hstart hmem hendless
      simp only [session, hrun]
      refine ⟨rfl, fun hstop => ?_, ?_⟩
      · rcases List.mem_cons.mp hstop with hstop | hstop
        · cases hstop
        · exact hinquiries _ hstop
      · rw [← List.singleton_append, Session.printed_append, Session.printed_of_inquiries hinquiries]
        rfl

/-- A sound exporter with one page, for the records that are compared as a whole. -/
def onePage (page : Text) : Surroundings where
  network := Network.ofReplies [("http://localhost:10001/metrics?private=1", .response 200 page)]
  files := Files.reader [("metrics", "metrics: []")]
  exporter := .sound

def onePageArguments : List Text := ["--exporter", "expose", "--config", "metrics"]

theorem run_stops_what_it_starts_onePage :
    let session := run (onePage []) onePageArguments
    (Session.starts session.actions).length = 1 ∧ Session.stopCount session.actions = 1 ∧
      ∃ results, Concluded session results (.ok ()) := by
  intro session
  obtain ⟨-, -, hstarts, hprepared⟩ := run_stops_what_it_starts (onePage []) onePageArguments
  have hrun : Session.starts session.actions ≠ [] ∧ Session.stopCount session.actions = 1 ∧
      session.isEndless = false := by decide +kernel
  obtain ⟨hstarted, hstopped, hends⟩ := hrun
  obtain ⟨options, hoptions⟩ := List.exists_mem_of_ne_nil _ hstarted
  obtain ⟨action, hmem, haction⟩ := List.mem_filterMap.mp hoptions
  have hstart : Action.start options ∈ session.actions := by
    cases action with
    | start other =>
      cases haction
      exact hmem
    | request | sleep | stop | print | complain => cases haction
  obtain ⟨settings, definitions, hsettings, rfl⟩ := hstarts options hstart
  obtain ⟨hone, -, hconcluded, hendless⟩ := hprepared settings definitions hsettings
  refine ⟨congrArg List.length hone, hstopped, _, hconcluded rfl fun check hmem => ?_⟩
  by_contra hforever
  obtain ⟨hsession, -⟩ := hendless rfl ⟨check, hmem, Bool.not_eq_false _ ▸ hforever⟩
  exact absurd (hends.symm.trans hsession) (by decide)

/-- A check that does not end keeps the audit from its end: the exporter has started and is never
stopped, and no result is printed. -/
theorem not_stopped_of_greatestBound :
    let outside := onePage "# TYPE wait histogram\nwait_bucket\x7ble=\"1.7976931348623157e308\"\x7d 1"
    let session := run outside onePageArguments
    (∀ options, outside.exporter.start options = .ok ()) ∧ outside.exporter.stop = .ok () ∧
      (Session.starts session.actions).length = 1 ∧ Session.stopCount session.actions = 0 ∧
      Session.printed session.actions = [] ∧ session.isEndless = true := by
  intro outside session
  exact ⟨fun _ => rfl, rfl, by decide +kernel⟩

end Audit

end ExporterAudit
