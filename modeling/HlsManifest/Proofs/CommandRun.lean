import HlsManifest.Cli.Run

/-!
# A run of the command, whatever order its jobs take

Before any file is read the command line is checked, and three kinds of command line come out:
one that asks for help, one that is `Refused` for one of the reasons the usage lists, and one
that is `Accepted` with its settings, files, format and base. The first two stop at once with no
output. An accepted one starts one job per file; whatever order the jobs run in, each fills only
the slot of its own file (`getElem?_foldl_set`), so once all have run the slots hold the reports
in argument order (`fanOut_of_every`). The output is those reports in the chosen format, and the
exit code is the negated status of the first failed one. All of this holds whatever the files read
as and whatever text the YAML library writes: both are arguments of the run.

Main statement: `run_reports_in_order`.
-/

set_option autoImplicit false

namespace HlsManifest

namespace Cli

section FanOut

variable (reports : List Report)

/-- A slot holds its report once its job has run, and what it held before otherwise. -/
theorem getElem?_foldl_set (order : List Nat) (slots : List (Option Report)) (index : Nat) :
    (order.foldl (fun slots index => slots.set index reports[index]?) slots)[index]? =
      if index ∈ order ∧ index < slots.length then some reports[index]? else slots[index]? := by
  induction order generalizing slots with
  | nil => simp
  | cons first rest ih =>
    rw [List.foldl_cons, ih, List.length_set, List.getElem?_set]
    by_cases same : first = index
    · subst same
      by_cases below : first < slots.length <;> simp [below]
    · simp [same, Ne.symm same]

/-- Once every job has run, in whatever order, the slots hold the reports in argument order. -/
theorem fanOut_of_every {order : List Nat} (every : ∀ index < reports.length, index ∈ order) :
    fanOut reports order = reports.map some := by
  apply List.ext_getElem?
  intro index
  rw [fanOut, getElem?_foldl_set, List.length_map]
  by_cases below : index < reports.length
  · simp [every index below, below]
  · simp [below]

theorem filterMap_fanOut_of_every {order : List Nat}
    (every : ∀ index < reports.length, index ∈ order) :
    (fanOut reports order).filterMap id = reports := by
  rw [fanOut_of_every reports every, List.filterMap_map]
  exact List.filterMap_some

end FanOut

section ExitCode

variable {reports before after : List Report} {report : Report}

theorem exitCodeOf_of_clean (clean : ∀ report ∈ reports, report.status = 0) :
    exitCodeOf reports = 0 := by
  have none_failed : reports.find? Report.failed = none := by
    rw [List.find?_eq_none]
    intro report member
    simp [Report.failed, clean report member]
  rw [exitCodeOf, none_failed]

theorem exitCodeOf_of_first_failed (split : reports = before ++ report :: after)
    (clean : ∀ earlier ∈ before, earlier.status = 0) (failed : report.status ≠ 0) :
    exitCodeOf reports = -report.status := by
  have before_clean : before.find? Report.failed = none := by
    rw [List.find?_eq_none]
    intro earlier member
    simp [Report.failed, clean earlier member]
  have first : reports.find? Report.failed = some report := by
    rw [split, List.find?_append, before_clean, Option.none_or, List.find?_cons_of_pos]
    simp [Report.failed, failed]
  rw [exitCodeOf, first]

end ExitCode

/-- The command lines refused before any file is read, each for one of the usage reasons: flags
that do not read (other than a request for help), no playlist named, a negative capacity, a
format that is not one of the known names in any case, or a base URL that does not parse. -/
inductive Refused (environment : Environment) (arguments : List String) : Prop where
  | flags {failure : FlagError} :
      parseFlags (Options.initial environment) arguments = .error failure → failure ≠ .help →
      Refused environment arguments
  | noPlaylist {options : Options} :
      parseFlags (Options.initial environment) arguments = .ok (options, []) →
      Refused environment arguments
  | negativeCapacity {options : Options} {files : List String} :
      parseFlags (Options.initial environment) arguments = .ok (options, files) →
      options.segments < 0 ∨ options.variants < 0 ∨ options.maxEvents < 0 →
      Refused environment arguments
  | unknownFormat {options : Options} {files : List String} :
      parseFlags (Options.initial environment) arguments = .ok (options, files) →
      Format.ofName? options.format = none → Refused environment arguments
  | badBase {options : Options} {files : List String} {failure : Uri.ParseError} :
      parseFlags (Options.initial environment) arguments = .ok (options, files) →
      options.base ≠ "" → Uri.parse (Bytes.ofString options.base) = .error failure →
      Refused environment arguments

/-- A command line that passes every check, with the settings, the files, the format and the base
URL it gives. -/
structure Accepted (environment : Environment) (arguments : List String) (options : Options)
    (files : List String) (format : Format) (base : Option Uri.Reference) : Prop where
  flags : parseFlags (Options.initial environment) arguments = .ok (options, files)
  someFile : files ≠ []
  capacities : 0 ≤ options.segments ∧ 0 ≤ options.variants ∧ 0 ≤ options.maxEvents
  named : Format.ofName? options.format = some format
  located : (options.base = "" ∧ base = none) ∨
    ∃ reference, options.base ≠ "" ∧ Uri.parse (Bytes.ofString options.base) = .ok reference ∧
      base = some reference

section Plan

variable {environment : Environment} {arguments : List String}

theorem plan_of_help (help : parseFlags (Options.initial environment) arguments = .error .help) :
    plan environment arguments = .error .help := by
  simp [plan, help, bind, Except.bind, throw, throwThe, MonadExceptOf.throw]

theorem plan_invalid_of_parsed {options : Options} {files : List String}
    (parsed : parseFlags (Options.initial environment) arguments = .ok (options, files))
    (fails : files = [] ∨ (options.segments < 0 ∨ options.variants < 0 ∨ options.maxEvents < 0) ∨
      Format.ofName? options.format = none ∨
      (options.base ≠ "" ∧ ∃ failure, Uri.parse (Bytes.ofString options.base) = .error failure)) :
    ∃ message, plan environment arguments = .error (.invalid message) := by
  -- the checks after the flags run in order, and the first that fails gives the message
  by_cases noFile : files = []
  · refine ⟨"usage: no playlist given", ?_⟩
    simp [plan, parsed, noFile, bind, Except.bind, pure, Except.pure, throw, throwThe,
      MonadExceptOf.throw]
  by_cases negative : options.segments < 0 ∨ options.variants < 0 ∨ options.maxEvents < 0
  · refine ⟨"usage: capacities must not be negative", ?_⟩
    simp [plan, parsed, noFile, negative, or_assoc, bind, Except.bind, pure, Except.pure,
      throw, throwThe, MonadExceptOf.throw]
  cases named : Format.ofName? options.format with
  | none =>
    refine ⟨"unknown output format " ++ Quoted.ofString options.format, ?_⟩
    simp [plan, parsed, noFile, negative, or_assoc, named, bind, Except.bind, pure, Except.pure,
      throw, throwThe, MonadExceptOf.throw]
  | some format =>
    -- only the base is left to fail
    have unparsed : options.base ≠ "" ∧
        ∃ failure, Uri.parse (Bytes.ofString options.base) = .error failure := by
      simp only [noFile, negative, named, false_or, reduceCtorEq] at fails
      exact fails
    obtain ⟨given, failure, failed⟩ := unparsed
    refine ⟨failure.message, ?_⟩
    simp [plan, parsed, noFile, negative, or_assoc, named, given, failed, bind, Except.bind, pure,
      Except.pure, throw, throwThe, MonadExceptOf.throw]

theorem plan_of_refused (refused : Refused environment arguments) :
    ∃ message, plan environment arguments = .error (.invalid message) := by
  cases refused with
  | @flags failure parsed notHelp =>
    refine ⟨failure.message, ?_⟩
    cases failure with
    | help => exact absurd rfl notHelp
    | _ => simp [plan, parsed, bind, Except.bind, throw, throwThe, MonadExceptOf.throw]
  | noPlaylist parsed => exact plan_invalid_of_parsed parsed (.inl rfl)
  | negativeCapacity parsed negative => exact plan_invalid_of_parsed parsed (.inr (.inl negative))
  | unknownFormat parsed unknown => exact plan_invalid_of_parsed parsed (.inr (.inr (.inl unknown)))
  | badBase parsed given failed =>
    exact plan_invalid_of_parsed parsed (.inr (.inr (.inr ⟨given, _, failed⟩)))

theorem plan_of_accepted {options : Options} {files : List String} {format : Format}
    {base : Option Uri.Reference} (accepted : Accepted environment arguments options files format base) :
    plan environment arguments = .ok ⟨options, format, base, files⟩ := by
  obtain ⟨parsed, someFile, ⟨segments, variants, events⟩, named, located⟩ := accepted
  have positive : ¬(options.segments < 0 ∨ options.variants < 0 ∨ options.maxEvents < 0) := by
    omega
  rcases located with ⟨empty, rfl⟩ | ⟨reference, given, read, rfl⟩
  · simp [plan, parsed, someFile, positive, or_assoc, named, empty, bind, Except.bind, pure,
      Except.pure]
  · simp [plan, parsed, someFile, positive, or_assoc, named, given, read, bind, Except.bind, pure,
      Except.pure]

/-- Every command line asks for help, is refused for a usage reason, or is accepted. -/
theorem help_or_refused_or_accepted (environment : Environment) (arguments : List String) :
    parseFlags (Options.initial environment) arguments = .error .help ∨
      Refused environment arguments ∨
      ∃ options files format base, Accepted environment arguments options files format base := by
  cases parsed : parseFlags (Options.initial environment) arguments with
  | error failure =>
    by_cases help : failure = .help
    · exact .inl (help ▸ rfl)
    · exact .inr (.inl (.flags parsed help))
  | ok result =>
    obtain ⟨options, files⟩ := result
    by_cases noFile : files = []
    · subst noFile
      exact .inr (.inl (.noPlaylist parsed))
    by_cases negative : options.segments < 0 ∨ options.variants < 0 ∨ options.maxEvents < 0
    · exact .inr (.inl (.negativeCapacity parsed negative))
    cases named : Format.ofName? options.format with
    | none => exact .inr (.inl (.unknownFormat parsed named))
    | some format =>
      by_cases given : options.base = ""
      · exact .inr (.inr ⟨options, files, format, none,
          ⟨parsed, noFile, by omega, named, .inl ⟨given, rfl⟩⟩⟩)
      · cases read : Uri.parse (Bytes.ofString options.base) with
        | error failure => exact .inr (.inl (.badBase parsed given read))
        | ok reference =>
          exact .inr (.inr ⟨options, files, format, some reference,
            ⟨parsed, noFile, by omega, named, .inr ⟨reference, given, read, rfl⟩⟩⟩)

theorem readFlag_help (options : Options) : readFlag options "-h" = .error .help := by
  have dash : "-h".startsWith "-" = true := by simp
  have name : flagName "-h" = "h" := by simp [flagName]
  have key : splitValue "h" = ("h", none) := by decide
  have unknown : Flag.ofName? "h" = none := by decide
  simp [readFlag, dash, name, key, unknown]

theorem parseFlags_help_first (options : Options) (rest : List String) :
    parseFlags options ("-h" :: rest) = .error .help := by
  simp [parseFlags, readFlag_help]

end Plan

section Run

variable (schedule : Nat → List Nat) (environment : Environment) (arguments : List String)
  (readFile : String → Except String Bytes) (yaml : Document → Bytes)
  (interrupted outputFails : Bool)

theorem run_of_stop {stop : Stop} (stopped : plan environment arguments = .error stop) :
    run schedule environment arguments readFile yaml interrupted outputFails =
      ⟨stop.exitCode, []⟩ := by
  simp [run, stopped]

theorem reports_map_read (options : Options) (format : Format) (base : Option Uri.Reference)
    (files : List String) :
    (⟨options, format, base, files⟩ : Plan).reports (files.map readFile) =
      files.map fun file => inspect options base file (readFile file) := by
  unfold Plan.reports
  induction files with
  | nil => rfl
  | cons file rest ih => simp [ih]

/-- An accepted run, its jobs in any order that runs each of them: the reports of its files in
argument order, unless it was interrupted or cannot write. -/
theorem run_of_accepted (everyJob : ∀ count index, index < count → index ∈ schedule count)
    {options : Options} {files : List String} {format : Format} {base : Option Uri.Reference}
    (accepted : Accepted environment arguments options files format base) :
    run schedule environment arguments readFile yaml interrupted outputFails =
      if interrupted || outputFails then ⟨abandonedCode, []⟩
      else
        ⟨exitCodeOf (files.map fun file => inspect options base file (readFile file)),
          format.render yaml (files.map fun file => inspect options base file (readFile file))⟩ := by
  have ordered : (fanOut (files.map fun file => inspect options base file (readFile file))
      (schedule files.length)).filterMap id =
      files.map fun file => inspect options base file (readFile file) := by
    apply filterMap_fanOut_of_every
    intro index below
    exact everyJob _ index (by simpa using below)
  have finished : (⟨options, format, base, files⟩ : Plan).finish yaml (files.map readFile) schedule =
      ⟨exitCodeOf (files.map fun file => inspect options base file (readFile file)),
        format.render yaml (files.map fun file => inspect options base file (readFile file))⟩ := by
    simp only [Plan.finish, reports_map_read, ordered]
  cases interrupted <;> cases outputFails <;> simp [run, plan_of_accepted accepted, finished]

end Run

/-- A run of the command, whatever order its file jobs take, so long as every job runs. Every
command line asks for help, is refused for a usage reason, or is accepted. Help ends the run with
code 0, and so does `-h` as the first argument; a refused command line ends it with code 1; both
write nothing, interrupted or not. An accepted command line ends with code 4 and writes nothing
when the run is interrupted or its output cannot be written. Otherwise it writes the reports of
the named files in argument order, in the chosen format, and ends with code 0 when every report
has status 0, and else with the negated status of the first report that does not. This holds for
every way of reading the files and every YAML writer. -/
theorem run_reports_in_order (schedule : Nat → List Nat)
    (everyJob : ∀ count index, index < count → index ∈ schedule count)
    (environment : Environment) (arguments : List String)
    (readFile : String → Except String Bytes) (yaml : Document → Bytes)
    (interrupted outputFails : Bool) :
    (parseFlags (Options.initial environment) arguments = .error .help ∨
      Refused environment arguments ∨
      ∃ options files format base, Accepted environment arguments options files format base) ∧
    (parseFlags (Options.initial environment) arguments = .error .help →
      run schedule environment arguments readFile yaml interrupted outputFails = ⟨0, []⟩) ∧
    (arguments.head? = some "-h" →
      run schedule environment arguments readFile yaml interrupted outputFails = ⟨0, []⟩) ∧
    (Refused environment arguments →
      run schedule environment arguments readFile yaml interrupted outputFails = ⟨1, []⟩) ∧
    (∀ options files format base, Accepted environment arguments options files format base →
      (interrupted = true ∨ outputFails = true →
        run schedule environment arguments readFile yaml interrupted outputFails = ⟨4, []⟩) ∧
      (interrupted = false → outputFails = false →
        (run schedule environment arguments readFile yaml interrupted outputFails).output =
          format.render yaml (files.map fun file => inspect options base file (readFile file)) ∧
        ((∀ report ∈ files.map fun file => inspect options base file (readFile file),
            report.status = 0) →
          (run schedule environment arguments readFile yaml interrupted outputFails).exitCode = 0) ∧
        (∀ before report after,
          files.map (fun file => inspect options base file (readFile file)) =
            before ++ report :: after →
          (∀ earlier ∈ before, earlier.status = 0) → report.status ≠ 0 →
          (run schedule environment arguments readFile yaml interrupted outputFails).exitCode =
            -report.status))) := by
  have helped : parseFlags (Options.initial environment) arguments = .error .help →
      run schedule environment arguments readFile yaml interrupted outputFails = ⟨0, []⟩ :=
    fun help => run_of_stop schedule environment arguments readFile yaml interrupted outputFails
      (plan_of_help help)
  refine ⟨help_or_refused_or_accepted environment arguments, helped, fun first => ?_,
    fun refused => ?_, fun options files format base accepted => ?_⟩
  · -- `-h` first is help, whatever follows
    obtain ⟨rest, rfl⟩ : ∃ rest, arguments = "-h" :: rest := by
      cases arguments with
      | nil => cases first
      | cons argument rest =>
        simp only [List.head?_cons, Option.some.injEq] at first
        exact ⟨rest, by rw [first]⟩
    exact helped (parseFlags_help_first _ rest)
  · obtain ⟨message, stopped⟩ := plan_of_refused refused
    rw [run_of_stop schedule environment arguments readFile yaml interrupted outputFails stopped]
    rfl
  · rw [run_of_accepted schedule environment arguments readFile yaml interrupted outputFails everyJob
      accepted]
    refine ⟨fun abandoned => ?_, fun running writing => ?_⟩
    · rcases abandoned with rfl | rfl
      · rfl
      · cases interrupted <;> rfl
    · subst running writing
      exact ⟨rfl, exitCodeOf_of_clean, fun _ _ _ split clean failed =>
        exitCodeOf_of_first_failed split clean failed⟩

/-- Two playlist files, the jobs run last file first: the output is still the report of the first
file, then that of the second, in text. -/
theorem run_reports_in_order_last_first :
    (run (fun count => (List.range count).reverse) [] ["a.m3u8", "b.m3u8"]
        (fun _ => .ok (Bytes.ofString "#EXTM3U\n")) (fun _ => []) false false).output =
      Format.text.render (fun _ => [])
        [inspect (Options.initial []) none "a.m3u8" (.ok (Bytes.ofString "#EXTM3U\n")),
          inspect (Options.initial []) none "b.m3u8" (.ok (Bytes.ofString "#EXTM3U\n"))] := by
  have parsed : parseFlags (Options.initial []) ["a.m3u8", "b.m3u8"] =
      .ok (Options.initial [], ["a.m3u8", "b.m3u8"]) := by
    have plain : "a.m3u8".startsWith "-" = false := by simp
    simp [parseFlags, readFlag, plain]
  have accepted : Accepted [] ["a.m3u8", "b.m3u8"] (Options.initial []) ["a.m3u8", "b.m3u8"]
      .text none :=
    ⟨parsed, by simp, by decide, by decide, .inl ⟨rfl, rfl⟩⟩
  exact ((run_reports_in_order _ (fun count index below => by simpa using below) [] _
    (fun _ => .ok (Bytes.ofString "#EXTM3U\n")) (fun _ => []) false false).2.2.2.2 _ _ _ _
    accepted).2 rfl rfl |>.1

end Cli

end HlsManifest
