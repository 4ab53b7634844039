import Underwriting.Command.Failure
import Underwriting.Command.Options
import Underwriting.Gate.Admission
import Underwriting.Gate.Doctor

/-!
The commands themselves. Each opens the database first. Adding a coverage runs in one transaction,
which is committed only if the coverage was added; a rejection is a result of adding, and every
other failure is one of the command. A transaction that is not ended as it should be is dropped, and
with it what was done in it.
-/

namespace Underwriting.Command

abbrev Step (α : Type) := Traced Failure α

def topic : String := "coverage_cli::commands"

def longestTimeout : Nat := 2147483647

def openDatabase (files : Files) (settings : Settings) : Step Opened :=
  match openPath files settings.database with
  | .error cause => .fail (.opening settings.database cause)
  | .ok opened =>
      if longestTimeout < settings.busyTimeout.toNat then .fail .timeoutTooLong
      else do
        .emit ⟨.debug, topic, "database opened", [.shown "path" settings.database]⟩
        return opened

def checked {α : Type} (context : Option String) (check : Gate.Check α) : Step α :=
  ⟨check.outcome.mapError (.gate context), check.entries⟩

inductive AddOutcome
  | added (coverage : Coverage)
  | validated
  | rejected (cause : Gate.Failure)
deriving DecidableEq

structure AddResult where
  request : Request
  evaluationDate : Date
  outcome : AddOutcome
deriving DecidableEq

/-- What a check means for the request: a rejection is an outcome too. -/
def outcomeOf {α : Type} (accepted : α → AddOutcome) (check : Gate.Check α) : Step AddOutcome :=
  match check.outcome with
  | .ok value => ⟨.ok (accepted value), check.entries⟩
  | .error cause =>
      if cause.isRejection then ⟨.ok (.rejected cause), check.entries⟩
      else ⟨.error (.gate (some "add coverage") cause), check.entries⟩

def reportOutcome : AddOutcome → Step Unit
  | .added _ => .emit ⟨.info, topic, "coverage committed", []⟩
  | .validated => pure ()
  | .rejected cause =>
      .emit ⟨.warn, topic, "coverage rejected",
        [⟨"kind", .quoted cause.kind⟩, .shown "error" cause.message]⟩

def leave (database : Store.Database) (boundary : Boundary)
    (step : Except Store.Fault Store.Database) : Store.Database × Except Failure Unit :=
  match step with
  | .ok left => (left, .ok ())
  | .error fault => (database.rollback, .error (.transaction boundary fault))

def endTransaction (database : Store.Database) :
    Except Failure AddOutcome → Store.Database × Except Failure Unit
  | .ok (.added _) => leave database .commit database.commitTransaction
  | .ok _ => leave database .rollBack database.rollBackTransaction
  | .error _ => (database.rollback, .ok ())

def attemptToAdd (database : Store.Database) (request : Request) (on : Date) (dryRun : Bool) :
    Store.Database × Step AddOutcome :=
  if dryRun then
    (database, outcomeOf (fun _ => .validated) (Gate.validate database request on))
  else
    let change := Gate.createCoverage database request on
    (change.database, outcomeOf .added change.result)

def addTo (database : Store.Database) (request : Request) (on : Date) (dryRun : Bool) :
    Store.Database × Step AddResult :=
  match database.startTransaction with
  | .error fault => (database, .fail (.transaction .start fault))
  | .ok started =>
      let (reached, attempt) := attemptToAdd started request on dryRun
      let (left, ending) := endTransaction reached attempt.outcome
      (left, do
        let outcome ← attempt
        (⟨ending, []⟩ : Step Unit)
        reportOutcome outcome
        return ⟨request, on, outcome⟩)

def addSpan (request : Request) (dryRun : Bool) : Span :=
  ⟨topic, "add", [.shown "request" request, ⟨"dry_run", .flag dryRun⟩]⟩

def runAdd (files : Files) (settings : Settings) (today : Date) (request : Request)
    (dryRun : Bool) : Files × Step AddResult :=
  let opening := openDatabase files settings
  match opening.outcome with
  | .error failure => (files, .within (addSpan request dryRun) ⟨.error failure, opening.entries⟩)
  | .ok opened =>
      let (database, adding) :=
        addTo opened.database request (settings.evaluationDate.getD today) dryRun
      (opened.keep files database,
        .within (addSpan request dryRun) (opening >>= fun _ => adding))

def runRules (files : Files) (settings : Settings) (request : Request) :
    Step Gate.RuleReport := do
  let opened ← openDatabase files settings
  checked none (Gate.checkContract opened.database request.contract)
  checked none (Gate.checkCoverageType opened.database request.coverageType)
  checked (some "evaluate rejection rules") (Gate.explainRules opened.database request)

def reportMissing : List String → Step Unit
  | [] => pure ()
  | name :: rest => do
      .emit ⟨.warn, topic, "required table missing", [⟨"table", .quoted name⟩]⟩
      reportMissing rest

def runDoctor (files : Files) (settings : Settings) : Step Gate.DoctorReport := do
  let opened ← openDatabase files settings
  let report ← checked (some "probe database") (Gate.probe opened.database opened.name)
  if report.isEmptySchema then
    .emit ⟨.warn, topic, "no tables found; create the schema and load the seed data",
      [.shown "database" report.database]⟩
  else reportMissing report.missingTables
  return report

end Underwriting.Command
