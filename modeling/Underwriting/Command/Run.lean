import Underwriting.Command.Arguments
import Underwriting.Command.Report

/-!
A run of the program: the command line is read, the log is opened, the settings are loaded, and
the command does its work on the files of the working directory. What it logs goes to the log file
if one is asked for, and otherwise in front of what it prints beside the output. The day is given with
the surroundings. A usage error and a request for help are answered by one text, which does not say
what is wrong with a command line.
-/

namespace Underwriting.Command

structure Surroundings where
  files : Files
  environment : List (String × String)
  today : Date
  engineVersion : String

def Surroundings.setting? (surroundings : Surroundings) (name : String) : Option String :=
  (surroundings.environment.find? fun entry => entry.1 == name).map (·.2)

structure Work where
  files : Files
  entries : List Entry
  report : Report
  exit : Nat
  failure : Option Failure

def Work.ofFailure (files : Files) (entries : List Entry) (failure : Failure) : Work :=
  ⟨files, entries, ⟨"", failure.message ++ "\n"⟩, failure.exit, some failure⟩

def Work.ofStep {α : Type} (files : Files) (step : Step α) (report : α → Report)
    (exit : α → Nat) : Work :=
  match step.outcome with
  | .ok value => ⟨files, step.entries, report value, exit value, none⟩
  | .error failure => .ofFailure files step.entries failure

def perform (surroundings : Surroundings) (files : Files) (settings : Settings)
    (command : Command) : Work :=
  let done : Work :=
    match command with
    | .add request dryRun =>
        let (changed, adding) := runAdd files settings surroundings.today request dryRun
        .ofStep changed adding addReport addExit
    | .rules request => .ofStep files (runRules files settings request) rulesReport fun _ => 0
    | .doctor asJson =>
        .ofStep files (runDoctor files settings)
          (fun report => doctorReport report surroundings.engineVersion asJson) doctorExit
  { done with files := filesOnceOpen done.files settings.database }

def settingsVariable : String := "COVERAGE_GATE_CONFIG"

def filterVariable : String := "RUST_LOG"

def settingsFor (surroundings : Surroundings) (files : Files) (invocation : Invocation) :
    Except LoadFault Settings :=
  let options := invocation.options
  (resolveSettings files options.settingsPath (surroundings.setting? settingsVariable)).map
    fun settings => settings.override options.database options.evaluationDate

/-- The environment may say what is logged where the command line does not. A filter that cannot be
read is passed over, unless reading it breaks off. -/
def filterFor (surroundings : Surroundings) (options : Options) : Except Failure Log.Filter :=
  let standing := Log.Filter.ofVerbosity options.verbosity
  if options.choosesVerbosity then .ok standing
  else
    match (surroundings.setting? filterVariable).map Log.Filter.ofText with
    | some (.ok filter) => .ok filter
    | some (.error .torn) => .error .tornFilter
    | _ => .ok standing

structure Outcome where
  files : Files
  exit : Nat
  output : String
  aside : List Log.Line
  failure : Option Failure

def lineText : Log.Line → String
  | .text content => content
  | .record object => object.toText ++ "\n"

structure Logging where
  layout : Log.Layout
  coloured : Bool
  filter : Log.Filter
  entry : Option String

namespace Logging

def lines (logging : Logging) (entries : List Entry) : List Log.Line :=
  Log.lines logging.layout logging.coloured logging.filter entries

def bytes (logging : Logging) (entries : List Entry) : List UInt8 :=
  (String.join ((logging.lines entries).map lineText)).toUTF8.toList

end Logging

/-- What is logged before a database is first read. That it cannot be read is a fault of the store,
which is logged at once. -/
def entriesBeforeReading (entries : List Entry) : List Entry :=
  entries.takeWhile fun entry => entry.level? != some .error

def foreignBytes : List UInt8 := "log".toUTF8.toList

def sharedFile? (files : Files) (settings : Settings) (logging : Logging) :
    Option (String × List UInt8) := do
  let name ← logging.entry
  let opened ← (openPath files settings.database).toOption
  match files.find? name with
  | some (.bytes content) => if opened.entry = some name then some (name, content) else none
  | _ => none

/-- Work with a log. Where the log is kept in the file of the database, all that is logged before
the database is first read is found in it. -/
def performLogged (surroundings : Surroundings) (files : Files) (settings : Settings)
    (command : Command) (logging : Logging) : Work :=
  let early := perform surroundings files settings command
  match sharedFile? files settings logging with
  | none => early
  | some (name, content) =>
      let late :=
        perform surroundings (files.write name (.bytes foreignBytes)) settings command
      let logged := logging.bytes (entriesBeforeReading late.entries)
      if content.length + logged.length ≤ 1 then early else { late with files }

def work (surroundings : Surroundings) (files : Files) (invocation : Invocation)
    (logging : Logging) : Work :=
  match settingsFor surroundings files invocation with
  | .error cause => .ofFailure files [] (.settings cause)
  | .ok settings => performLogged surroundings files settings invocation.command logging

def finish (logging : Logging) (work : Work) : Outcome :=
  let aside := if work.report.aside.isEmpty then [] else [Log.Line.text work.report.aside]
  match logging.entry with
  | none =>
      ⟨work.files, work.exit, work.report.output, logging.lines work.entries ++ aside,
        work.failure⟩
  | some name =>
      ⟨work.files.append name (logging.bytes work.entries), work.exit, work.report.output, aside,
        work.failure⟩

def openLog (files : Files) (options : Options) : Except FileFault (Files × Option String) :=
  match options.logPath with
  | none => .ok (files, none)
  | some path => (files.touch path).map fun (files, name) => (files, some name)

def unlogged (files : Files) (failure : Failure) : Outcome :=
  ⟨files, failure.exit, "", [.text (failure.message ++ "\n")], some failure⟩

def runInvocation (surroundings : Surroundings) (invocation : Invocation) : Outcome :=
  let options := invocation.options
  match openLog surroundings.files options with
  | .error cause => unlogged surroundings.files (.logging cause)
  | .ok (files, entry) =>
      match filterFor surroundings options with
      | .error failure => unlogged files failure
      | .ok filter =>
          let logging : Logging := ⟨options.layout, options.coloured, filter, entry⟩
          finish logging (work surroundings files invocation logging)

def programName : String := "coverage-gate"

def programVersion : String := "0.1.0"

def helpText : String :=
  "Validate and add coverages to insurance contracts\n\n" ++
  "Usage: " ++ programName ++ " [OPTIONS] <COMMAND>\n\n" ++
  "Commands:\n" ++
  "  add <CONTRACT> <COVERAGE_TYPE> <AMOUNT> [--dry-run]\n" ++
  "  rules <COVERAGE_TYPE> --contract <ID> [--amount <AMOUNT>]\n" ++
  "  doctor [--json]\n\n" ++
  "Options:\n" ++
  "  --config <PATH>  --database <PATH>  --as-of <DATE>  -v, --verbose  -q, --quiet\n" ++
  "  --color <WHEN>  --log-level <LEVEL>  --log-format <FORMAT>  --log-file <PATH>\n" ++
  "  -h, --help  -V, --version\n"

def usageExit : Nat := 2

def stopped (files : Files) : Stop → Outcome
  | .usage => ⟨files, usageExit, "", [.text helpText], none⟩
  | .version => ⟨files, 0, programName ++ " " ++ programVersion ++ "\n", [], none⟩
  | .help => ⟨files, 0, helpText, [], none⟩

def settingsPaths (surroundings : Surroundings) (arguments : List String) : List String :=
  match Invocation.ofArguments arguments with
  | .error _ => []
  | .ok invocation =>
      standardSettingsPath :: invocation.options.settingsPath.toList ++
        (surroundings.setting? settingsVariable).toList ++ invocation.options.logPath.toList

def databasePath? (surroundings : Surroundings) (arguments : List String) : Option String := do
  let invocation ← (Invocation.ofArguments arguments).toOption
  let settings ← (settingsFor surroundings surroundings.files invocation).toOption
  filePath? settings.database

def run (surroundings : Surroundings) (arguments : List String) : Outcome :=
  match Invocation.ofArguments arguments with
  | .error stop => stopped surroundings.files stop
  | .ok invocation => runInvocation surroundings invocation

end Underwriting.Command
