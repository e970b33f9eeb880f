import HlsManifest.Cli.Output
import HlsManifest.Uri.Parse

/-!
# A run of the command

`m3u8span [flags] playlist.m3u8...` reads every named playlist and writes one report per file, in
the order given. Before any file is read the command line is checked, and the run stops with:

* code 0 and no output when help is asked for;
* code 1 when the flags do not read, no playlist is named, a capacity is negative, the format is
  not one of `text`, `json`, `yaml` (or `yml`) in any case, or the base URL does not parse.

An interrupted run stops before reading with code 4 and no output, and so does a run whose output
cannot be written. Otherwise the code is the negated status of the first file that failed, or 0.

The files are read by one job each, and the jobs run in an order the command does not choose. A
job writes only the report slot of its own file, and the reports are taken from the slots in
argument order once every job has run; `schedule count` is the order in which the `count` jobs
ran.

What the run takes from the system around it is a parameter: `readFile` gives the contents of the
file at a path or the text of the error that reading it gave, and `yaml` the text that the YAML
library writes for a tree.
-/

set_option autoImplicit false

namespace HlsManifest

namespace Cli

/-- Why a run stops before reading any file. -/
inductive Stop where
  | help
  | invalid (message : String)
  deriving DecidableEq, Repr

def Stop.exitCode : Stop → Int
  | .help => 0
  | .invalid _ => -ErrorClass.invalidArgument.status

/-- What a checked command line asks for. -/
structure Plan where
  options : Options
  format : Format
  base : Option Uri.Reference
  files : List String

def plan (environment : Environment) (arguments : List String) : Except Stop Plan := do
  let (options, files) ← match parseFlags (Options.initial environment) arguments with
    | .ok parsed => pure parsed
    | .error .help => throw Stop.help
    | .error failure => throw (Stop.invalid failure.message)
  if files.isEmpty then throw (Stop.invalid "usage: no playlist given")
  if options.segments < 0 || options.variants < 0 || options.maxEvents < 0 then
    throw (Stop.invalid "usage: capacities must not be negative")
  let format ← match Format.ofName? options.format with
    | some format => pure format
    | none => throw (Stop.invalid ("unknown output format " ++ Quoted.ofString options.format))
  let base ← if options.base.isEmpty then pure none
    else match Uri.parse (Bytes.ofString options.base) with
      | .ok reference => pure (some reference)
      | .error failure => throw (Stop.invalid failure.message)
  pure ⟨options, format, base, files⟩

/-- What a run ends with: its exit code and what it wrote to standard output. -/
structure Outcome where
  exitCode : Int
  output : Bytes
  deriving DecidableEq, Repr

/-- The code of a run that was interrupted or could not write its output. -/
def abandonedCode : Int :=
  -ErrorClass.other.status

/-- The reports of a plan, from what reading each file gave. -/
def Plan.reports (plan : Plan) (contents : List (Except String Bytes)) : List Report :=
  (plan.files.zip contents).map fun (file, read) => inspect plan.options plan.base file read

/-- The exit code of a run whose output was written: the negated status of the first failed
report, or zero. -/
def exitCodeOf (reports : List Report) : Int :=
  match reports.find? Report.failed with
  | some report => -report.status
  | none => 0

/-- The report slots after the jobs ran in the order `order`: the job of position `index` fills
that slot with its report and touches no other; a slot that no job filled stays empty. -/
def fanOut (reports : List Report) (order : List Nat) : List (Option Report) :=
  order.foldl (fun slots index => slots.set index reports[index]?) (reports.map fun _ => none)

/-- The outcome of a run whose output was written, its jobs run in the order `schedule` gives. -/
def Plan.finish (plan : Plan) (yaml : Document → Bytes) (contents : List (Except String Bytes))
    (schedule : Nat → List Nat) : Outcome :=
  let reports := (fanOut (plan.reports contents) (schedule plan.files.length)).filterMap id
  ⟨exitCodeOf reports, plan.format.render yaml reports⟩

/-- A whole run: the command line, then the files, then the output, which may fail to be
written. -/
def run (schedule : Nat → List Nat) (environment : Environment) (arguments : List String)
    (readFile : String → Except String Bytes) (yaml : Document → Bytes)
    (interrupted outputFails : Bool) : Outcome :=
  match plan environment arguments with
  | .error stop => ⟨stop.exitCode, []⟩
  | .ok checked =>
    if interrupted then ⟨abandonedCode, []⟩
    else
      let outcome := checked.finish yaml (checked.files.map readFile) schedule
      if outputFails then ⟨abandonedCode, []⟩ else outcome

end Cli

end HlsManifest
