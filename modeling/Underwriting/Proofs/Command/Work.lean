import Underwriting.Command.Run
import Underwriting.Proofs.Command.FileNames
import Underwriting.Proofs.Command.Transaction

/-!
What the work of a command comes to, by what the gate answers on the open database. A command exits
with the code for rejections if the gate rejects the request, with the one for failures if the gate
fails or the database lacks a table that it needs, and otherwise with zero. Its files are as they were
unless a coverage was added.
-/

namespace Underwriting.Command

open Store

def failureOf {α : Type} : Except Gate.Failure α → Option Gate.Failure
  | .ok _ => none
  | .error cause => some cause

def gateFailure? (opened : Opened) (on : Date) : Command → Option Gate.Failure
  | .add request true => failureOf (Gate.validate opened.database request on).outcome
  | .add request false => failureOf (Gate.createCoverage opened.database request on).result.outcome
  | .rules request =>
      (failureOf (Gate.checkContract opened.database request.contract).outcome).or
        ((failureOf (Gate.checkCoverageType opened.database request.coverageType).outcome).or
          (failureOf (Gate.explainRules opened.database request).outcome))
  | .doctor _ => failureOf (Gate.probe opened.database opened.name).outcome

def LacksTable (database : Database) : Prop :=
  ∃ name ∈ Gate.requiredTables, database.table? name = none

instance (database : Database) : Decidable (LacksTable database) :=
  inferInstanceAs (Decidable (∃ name ∈ _, _))

/-- Whether a command is left wanting although the gate did not fail. -/
def fallsShort (opened : Opened) : Command → Bool
  | .doctor _ => LacksTable opened.database
  | _ => false

def exitOf (short : Bool) : Option Gate.Failure → Nat
  | none => if short then Failure.failedExit else 0
  | some cause => if cause.isRejection then Failure.rejectedExit else Failure.failedExit

def exitOn (opened : Opened) (on : Date) (command : Command) : Nat :=
  exitOf (fallsShort opened command) (gateFailure? opened on command)

def stepExit {α : Type} (exit : α → Nat) : Except Failure α → Nat
  | .ok value => exit value
  | .error failure => failure.exit

theorem exit_ofStep {α : Type} (files : Files) (step : Step α) (report : α → Report)
    (exit : α → Nat) : (Work.ofStep files step report exit).exit = stepExit exit step.outcome := by
  unfold Work.ofStep
  cases step.outcome <;> rfl

theorem files_ofStep {α : Type} (files : Files) (step : Step α) (report : α → Report)
    (exit : α → Nat) : (Work.ofStep files step report exit).files = files := by
  unfold Work.ofStep
  cases step.outcome <;> rfl

theorem outcome_require_of_error {operation : Gate.Operation} {asking refusing : Event}
    {answer : Except Fault Bool} {failure cause : Gate.Failure}
    (failed : (Gate.require operation asking answer refusing failure).outcome = .error cause) :
    cause = failure ∨ cause.isRejection = false := by
  cases answer with
  | error fault =>
      have same : (.error (.dataAccess operation (.store fault)) : Except Gate.Failure Unit) =
          .error cause := failed
      cases same
      exact Or.inr rfl
  | ok found =>
      rw [Gate.outcome_require_of_ok rfl] at failed
      cases found with
      | true => cases failed
      | false =>
          cases failed
          exact Or.inl rfl

theorem failureOf_eq_some {α : Type} {outcome : Except Gate.Failure α} {cause : Gate.Failure} :
    failureOf outcome = some cause ↔ outcome = .error cause := by
  cases outcome <;> simp [failureOf]

theorem rejection_of_rules {opened : Opened} {on : Date} {request : Request} {cause : Gate.Failure}
    (met : gateFailure? opened on (.rules request) = some cause)
    (rejected : cause.isRejection = true) :
    cause = .contractNotFound request.contract ∨
      cause = .coverageTypeNotFound request.coverageType := by
  simp only [gateFailure?, Option.or_eq_some_iff, failureOf_eq_some] at met
  rcases met with atContract | ⟨_, atCoverageType | ⟨_, atRules⟩⟩
  · rcases outcome_require_of_error atContract with same | failure
    · exact Or.inl same
    · simp [failure] at rejected
  · rcases outcome_require_of_error atCoverageType with same | failure
    · exact Or.inr same
    · simp [failure] at rejected
  · obtain ⟨_, rfl, _⟩ := Gate.explainRules_error atRules
    cases rejected

@[simp] theorem exitOf_none (short : Bool) : exitOf short none = if short then 1 else 0 := rfl

@[simp] theorem exitOf_some (short : Bool) (cause : Gate.Failure) :
    exitOf short (some cause) = if cause.isRejection then 2 else 1 := rfl

theorem exitOf_cases (short : Bool) (failure : Option Gate.Failure) :
    exitOf short failure = 0 ∨ exitOf short failure = 1 ∨ exitOf short failure = 2 := by
  cases failure with
  | none => cases short <;> simp
  | some cause => cases rejected : cause.isRejection <;> simp [rejected]

theorem exitOf_some_ne_zero (short : Bool) (cause : Gate.Failure) :
    exitOf short (some cause) ≠ 0 := by
  cases rejected : cause.isRejection <;> simp [rejected]

theorem exitOf_eq_two_iff (short : Bool) (failure : Option Gate.Failure) :
    exitOf short failure = 2 ↔ ∃ cause, failure = some cause ∧ cause.isRejection = true := by
  cases failure with
  | none => cases short <;> simp
  | some cause => simp

theorem exitOf_eq_one_iff (short : Bool) (failure : Option Gate.Failure) :
    exitOf short failure = 1 ↔
      (∃ cause, failure = some cause ∧ cause.isRejection = false) ∨
        failure = none ∧ short = true := by
  cases failure with
  | none => simp
  | some cause => simp

section Opening

variable {files : Files} {settings : Settings}

theorem openDatabase_error {cause : OpenFault}
    (fails : openPath files settings.database = .error cause) :
    openDatabase files settings = .fail (.opening settings.database cause) := by
  simp [openDatabase, fails]

theorem outcome_openDatabase_ok {opened : Opened}
    (opens : openPath files settings.database = .ok opened)
    (patient : settings.busyTimeout.toNat ≤ longestTimeout) :
    (openDatabase files settings).outcome = .ok opened := by
  unfold openDatabase
  rw [opens]
  simp only [Nat.not_lt.mpr patient, ↓reduceIte, Traced.outcome_bind]
  rfl

theorem openDatabase_of_impatient {opened : Opened}
    (opens : openPath files settings.database = .ok opened)
    (impatient : longestTimeout < settings.busyTimeout.toNat) :
    openDatabase files settings = .fail .timeoutTooLong := by
  simp [openDatabase, opens, impatient]

theorem openPath_of_openDatabase {opened : Opened}
    (opens : (openDatabase files settings).outcome = .ok opened) :
    openPath files settings.database = .ok opened := by
  unfold openDatabase at opens
  split at opens
  · cases opens
  · rename_i other found
    split at opens
    · cases opens
    · cases opens
      exact found

end Opening

section Adding

variable (database : Database) (request : Request) (on : Date)

theorem outcome_reportOutcome (outcome : AddOutcome) : (reportOutcome outcome).outcome = .ok () := by
  cases outcome <;> rfl

theorem outcome_addTo (rest : database.saved = none) (dryRun : Bool) :
    (addTo database request on dryRun).2.outcome =
      (attemptToAdd database.beginTransaction request on dryRun).2.outcome.map
        fun outcome => ⟨request, on, outcome⟩ := by
  rw [addTo_of_rest database request on rest]
  dsimp only
  rw [Traced.outcome_bind]
  cases (attemptToAdd database.beginTransaction request on dryRun).2.outcome with
  | error failure => rfl
  | ok outcome =>
      simp only [Except.bind, Except.map, Traced.outcome_bind, outcome_reportOutcome]
      rfl

theorem stepExit_outcomeOf {α : Type} (accepted : α → AddOutcome) (check : Gate.Check α)
    (notRejected : ∀ value, addExit ⟨request, on, accepted value⟩ = 0) :
    stepExit addExit ((outcomeOf accepted check).outcome.map fun outcome =>
        ⟨request, on, outcome⟩) =
      exitOf false (failureOf check.outcome) := by
  unfold outcomeOf
  cases check.outcome with
  | ok value => exact notRejected value
  | error cause =>
      simp only
      cases rejected : cause.isRejection with
      | true => simp [failureOf, exitOf, rejected, stepExit, Except.map, addExit]
      | false => simp [failureOf, exitOf, rejected, stepExit, Except.map, Failure.exit]

theorem outcome_validate_beginTransaction :
    (Gate.validate database.beginTransaction request on).outcome =
      (Gate.validate database request on).outcome := by
  rw [Gate.outcome_validate, Gate.outcome_validate, runChecks_beginTransaction]

theorem exit_addTo {opened : Opened} (rest : opened.database.saved = none) (dryRun : Bool) :
    stepExit addExit (addTo opened.database request on dryRun).2.outcome =
      exitOn opened on (.add request dryRun) := by
  rw [outcome_addTo opened.database request on rest]
  cases dryRun with
  | true =>
      refine (stepExit_outcomeOf request on (fun _ => .validated) _ fun _ => rfl).trans ?_
      rw [outcome_validate_beginTransaction]
      rfl
  | false =>
      refine (stepExit_outcomeOf request on .added _ fun _ => rfl).trans ?_
      rw [result_createCoverage_beginTransaction]
      rfl

theorem settled_of_ok {α : Type} {accepted : α → AddOutcome} {check : Gate.Check α}
    {value : α} (ok : check.outcome = .ok value) (reached : Database) :
    settled reached (outcomeOf accepted check).outcome =
      settled reached (.ok (accepted value)) := by
  simp [outcomeOf, ok]

theorem settled_of_error {α : Type} {accepted : α → AddOutcome} {check : Gate.Check α}
    {cause : Gate.Failure} (failed : check.outcome = .error cause) (reached : Database) :
    settled reached (outcomeOf accepted check).outcome = reached.rollback := by
  unfold outcomeOf
  rw [failed]
  cases rejected : cause.isRejection <;> simp [rejected, settled]

theorem outcomeOf_error {α : Type} {accepted : α → AddOutcome} {check : Gate.Check α}
    {failure : Failure} (failed : (outcomeOf accepted check).outcome = .error failure) :
    ∃ cause, failure = .gate (some "add coverage") cause := by
  unfold outcomeOf at failed
  cases met : check.outcome with
  | ok value => simp [met] at failed
  | error cause =>
      cases rejected : cause.isRejection with
      | true => simp [met, rejected] at failed
      | false =>
          simp only [met, rejected, Bool.false_eq_true, if_false, Except.error.injEq] at failed
          exact ⟨cause, failed.symm⟩

/-- A database at rest does not refuse to begin, commit or roll back the transaction. -/
theorem outcome_addTo_ne_transaction (rest : database.saved = none) (dryRun : Bool)
    (boundary : Boundary) (fault : Fault) :
    (addTo database request on dryRun).2.outcome ≠ .error (.transaction boundary fault) := by
  intro refused
  rw [outcome_addTo database request on rest] at refused
  cases attempt : (attemptToAdd database.beginTransaction request on dryRun).2.outcome with
  | ok outcome => simp [attempt, Except.map] at refused
  | error failure =>
      have byGate : ∃ cause, failure = .gate (some "add coverage") cause := by
        cases dryRun with
        | true => exact outcomeOf_error attempt
        | false => exact outcomeOf_error attempt
      obtain ⟨cause, rfl⟩ := byGate
      simp [attempt, Except.map] at refused

/-- A transaction adds the row of an accepted request, or leaves the database as it was opened. -/
theorem addTo_cases (rest : database.saved = none) (dryRun : Bool) :
    ((addTo database request on dryRun).1 = database ∧
        (dryRun = true ∨ ∃ failure,
          (Gate.createCoverage database request on).result.outcome = .error failure)) ∨
      (dryRun = false ∧
        (Gate.createCoverage database request on).result.outcome =
          .ok (Coverage.ofRequest request) ∧
        ∃ row, Gate.Records database request row ∧
          Database.Grown Gate.ledgerName database (addTo database request on dryRun).1 [row]) := by
  have undone : database.beginTransaction.rollback = database :=
    rollback_eq rest (Database.Grown.refl Gate.ledgerName _)
  cases dryRun with
  | true =>
      refine Or.inl ⟨?_, Or.inl rfl⟩
      rw [addTo_of_rest database request on rest]
      change settled database.beginTransaction (outcomeOf (fun _ => .validated)
        (Gate.validate database.beginTransaction request on)).outcome = database
      cases checked : (Gate.validate database.beginTransaction request on).outcome with
      | ok value => rw [settled_of_ok checked]; exact undone
      | error cause => rw [settled_of_error checked]; exact undone
  | false =>
      have sameResult := result_createCoverage_beginTransaction database request on
      have ends : (addTo database request on false).1 =
          settled (Gate.createCoverage database.beginTransaction request on).database
            (outcomeOf .added
              (Gate.createCoverage database.beginTransaction request on).result).outcome := by
        rw [addTo_of_rest database request on rest]
        rfl
      rcases Gate.createCoverage_cases database.beginTransaction request on with
        ⟨failure, failed, same⟩ | ⟨_, accepted, row, records, grown⟩
      · refine Or.inl ⟨?_, Or.inr ⟨failure, sameResult ▸ failed⟩⟩
        rw [ends, settled_of_error failed, same]
        exact undone
      · refine Or.inr ⟨rfl, sameResult ▸ accepted, row, records, ?_⟩
        rw [ends, settled_of_ok accepted]
        exact grown_commit rest grown

/-- An addition that fails leaves the database as it was, whichever step of it failed. -/
theorem database_addTo_of_failure {dryRun : Bool} {failure : Failure}
    (failed : (addTo database request on dryRun).2.outcome = .error failure) :
    (addTo database request on dryRun).1 = database := by
  cases saved : database.saved with
  | some kept => rw [addTo_of_started database request on saved]
  | none =>
      rcases addTo_cases database request on saved dryRun with ⟨same, _⟩ | ⟨rfl, accepted, _⟩
      · exact same
      · have result := result_createCoverage_beginTransaction database request on
        rw [outcome_addTo database request on saved] at failed
        simp [attemptToAdd, outcomeOf, result, accepted, Except.map] at failed

end Adding

section Making

variable {files : Files} {path name : String} {opened : Opened}

theorem filesOnceOpen_of_entry (opens : (openPath files path).map Opened.entry = .ok (some name))
    (there : (files.find? name).isSome = true) : filesOnceOpen files path = files := by
  unfold filesOnceOpen
  split
  · rename_i database shown entry opens'
    rw [opens'] at opens
    cases opens
    rw [if_pos there]
  · rfl

theorem find?_filesOnceOpen {content : Content}
    (there : files.find? name = some content) (path : String) :
    (filesOnceOpen files path).find? name = some content := by
  unfold filesOnceOpen
  split
  · rename_i database shown entry opens
    split
    · exact there
    · rename_i missing
      have apart : name ≠ entry := by
        rintro rfl
        simp [there] at missing
      rw [Files.find?_write_of_ne apart, there]
  · exact there

theorem isSome_find?_filesOnceOpen (there : (files.find? name).isSome = true) (path : String) :
    ((filesOnceOpen files path).find? name).isSome = true := by
  obtain ⟨content, held⟩ := Option.isSome_iff_exists.mp there
  rw [find?_filesOnceOpen held]
  rfl

/-- A database that is opened without making its file has the file. -/
theorem isSome_find?_of_opened (opens : openPath files path = .ok opened)
    (there : filesOnceOpen files path = files) (entry : opened.entry = some name) :
    (files.find? name).isSome = true := by
  obtain ⟨database, shown, kept⟩ := opened
  cases entry
  unfold filesOnceOpen at there
  rw [opens] at there
  dsimp only at there
  split at there
  · assumption
  · rw [← there, Files.find?_write_self]
    rfl

theorem filesOnceOpen_keep (opens : openPath files path = .ok opened)
    (there : filesOnceOpen files path = files) (database : Database) :
    filesOnceOpen (opened.keep files database) path = opened.keep files database := by
  unfold Opened.keep
  split
  · rename_i name entry
    have present := isSome_find?_of_opened opens there entry
    split
    · apply filesOnceOpen_of_entry
      · rw [← (Files.sameNames_write present _).openPath, opens, ← entry]
        rfl
      · rw [Files.find?_write_self]
        rfl
    · exact there
  · exact there

/-- A file that is there when a database is open is there when the database is kept. -/
theorem isSome_find?_keep (opens : openPath files path = .ok opened)
    (made : ((filesOnceOpen files path).find? name).isSome = true) (database : Database) :
    ((filesOnceOpen (opened.keep files database) path).find? name).isSome = true := by
  unfold Opened.keep
  split
  · rename_i kept entry
    split
    · apply isSome_find?_filesOnceOpen
      by_cases same : name = kept
      · rw [same, Files.find?_write_self]
        rfl
      · rw [Files.find?_write_of_ne same]
        obtain ⟨_, _, _⟩ := opened
        cases entry
        simp only [filesOnceOpen, opens] at made
        split at made
        · exact made
        · rwa [Files.find?_write_of_ne same] at made
    · exact made
  · exact made

end Making

section Performing

variable {files : Files} {settings : Settings}

theorem outcome_checked {α : Type} (context : Option String) (check : Gate.Check α) :
    (checked context check).outcome = check.outcome.mapError (.gate context) := rfl

theorem outcome_runAdd (files : Files) (settings : Settings) (today : Date) (request : Request)
    (dryRun : Bool) :
    (runAdd files settings today request dryRun).2.outcome =
      (openDatabase files settings).outcome.bind fun opened =>
        (addTo opened.database request (settings.evaluationDate.getD today) dryRun).2.outcome := by
  unfold runAdd
  cases opening : (openDatabase files settings).outcome with
  | error failure => simp only [Traced.outcome_within, Except.bind, opening]
  | ok opened => simp only [Traced.outcome_within, Traced.outcome_bind, Except.bind, opening]

theorem exit_runRules {opened : Opened} (opens : openPath files settings.database = .ok opened)
    (patient : settings.busyTimeout.toNat ≤ longestTimeout) (on : Date) (request : Request) :
    stepExit (fun _ => 0) (runRules files settings request).outcome =
      exitOn opened on (.rules request) := by
  unfold runRules
  simp only [Traced.outcome_bind, outcome_openDatabase_ok opens patient, Except.bind,
    outcome_checked, exitOn, fallsShort, gateFailure?]
  cases (Gate.checkContract opened.database request.contract).outcome with
  | error cause => rfl
  | ok value =>
      cases (Gate.checkCoverageType opened.database request.coverageType).outcome with
      | error cause => rfl
      | ok value => cases (Gate.explainRules opened.database request).outcome <;> rfl

theorem outcome_reportMissing (names : List String) : (reportMissing names).outcome = .ok () := by
  induction names with
  | nil => rfl
  | cons name rest ih => simp only [reportMissing, Traced.outcome_bind, Traced.outcome_emit,
      Except.bind, ih]

theorem outcome_runDoctor {opened : Opened} (opens : openPath files settings.database = .ok opened)
    (patient : settings.busyTimeout.toNat ≤ longestTimeout) :
    (runDoctor files settings).outcome =
      (Gate.probe opened.database opened.name).outcome.mapError (.gate (some "probe database")) := by
  unfold runDoctor
  simp only [Traced.outcome_bind, outcome_openDatabase_ok opens patient, Except.bind,
    outcome_checked]
  cases (Gate.probe opened.database opened.name).outcome with
  | error cause => rfl
  | ok report =>
      simp only [Except.mapError]
      split
      · rfl
      · rw [Traced.outcome_bind, outcome_reportMissing]
        rfl

theorem no_rejection_of_doctor {opened : Opened} {on : Date} {asJson : Bool}
    {cause : Gate.Failure} (met : gateFailure? opened on (.doctor asJson) = some cause) :
    cause.isRejection = false := by
  rw [gateFailure?, Gate.outcome_probe, failureOf_eq_some] at met
  cases probed : Gate.probeTables opened.database with
  | ok tables => simp [probed, Except.map] at met
  | error fault =>
      simp only [probed, Gate.outcome_answered_error, Except.map, Except.error.injEq] at met
      rw [← met]
      rfl

theorem isHealthy_eq_false_iff {database : Database} {name : String} {report : Gate.DoctorReport}
    (probed : (Gate.probe database name).outcome = .ok report) :
    report.isHealthy = false ↔ LacksTable database := by
  rw [Gate.DoctorReport.isHealthy, Gate.missingTables_eq probed, LacksTable]
  simp [List.filter_eq_nil_iff]

theorem exit_runDoctor {opened : Opened} (opens : openPath files settings.database = .ok opened)
    (patient : settings.busyTimeout.toNat ≤ longestTimeout) (on : Date) (asJson : Bool) :
    stepExit doctorExit (runDoctor files settings).outcome = exitOn opened on (.doctor asJson) := by
  rw [outcome_runDoctor opens patient]
  unfold exitOn fallsShort
  cases probed : (Gate.probe opened.database opened.name).outcome with
  | error cause => simp only [gateFailure?, probed, failureOf]; rfl
  | ok report =>
      have healthy := isHealthy_eq_false_iff probed
      simp only [gateFailure?, probed, failureOf, Except.mapError, stepExit, doctorExit]
      cases lacks : report.isHealthy with
      | true =>
          have complete : ¬LacksTable opened.database := by
            rw [← healthy, lacks]
            simp
          simp [complete, exitOf]
      | false => simp [healthy.mp lacks, exitOf]

theorem exit_perform (surroundings : Surroundings) {opened : Opened}
    (opens : openPath files settings.database = .ok opened)
    (patient : settings.busyTimeout.toNat ≤ longestTimeout) (command : Command) :
    (perform surroundings files settings command).exit =
      exitOn opened (settings.evaluationDate.getD surroundings.today) command := by
  unfold perform
  cases command with
  | add request dryRun =>
      have opening := outcome_openDatabase_ok opens patient
      have rest := saved_of_openPath opens
      simp only [exit_ofStep, outcome_runAdd, opening, Except.bind, exit_addTo _ _ rest]
  | rules request =>
      dsimp only
      rw [exit_ofStep, exit_runRules opens patient]
  | doctor asJson =>
      dsimp only
      rw [exit_ofStep, exit_runDoctor opens patient]

theorem files_perform (surroundings : Surroundings) {opened : Opened}
    (there : filesOnceOpen files settings.database = files)
    (opens : openPath files settings.database = .ok opened)
    (patient : settings.busyTimeout.toNat ≤ longestTimeout) (command : Command) :
    (perform surroundings files settings command).files =
      match command with
      | .add request dryRun =>
          opened.keep files (addTo opened.database request
            (settings.evaluationDate.getD surroundings.today) dryRun).1
      | _ => files := by
  unfold perform
  cases command with
  | add request dryRun =>
      have opening := outcome_openDatabase_ok opens patient
      simp only [runAdd, opening, files_ofStep]
      exact filesOnceOpen_keep opens there _
  | rules request => simpa only [files_ofStep] using there
  | doctor asJson => simpa only [files_ofStep] using there

theorem exit_perform_of_failure (surroundings : Surroundings) {failure : Failure}
    (fails : (openDatabase files settings).outcome = .error failure) (command : Command) :
    (perform surroundings files settings command).exit = failure.exit := by
  unfold perform
  cases command with
  | add request dryRun => simp only [exit_ofStep, runAdd, fails, Traced.outcome_within, stepExit]
  | rules request =>
      simp only [exit_ofStep, runRules, Traced.outcome_bind, fails, Except.bind, stepExit]
  | doctor asJson =>
      simp only [exit_ofStep, runDoctor, Traced.outcome_bind, fails, Except.bind, stepExit]

theorem perform_of_unopened (surroundings : Surroundings) {cause : OpenFault}
    (fails : openPath files settings.database = .error cause) (command : Command) :
    (perform surroundings files settings command).exit = Failure.failedExit ∧
      (perform surroundings files settings command).files = files := by
  have there : filesOnceOpen files settings.database = files := by
    simp [filesOnceOpen, fails]
  have opening : (openDatabase files settings).outcome =
      .error (.opening settings.database cause) := by
    rw [openDatabase_error fails]
    rfl
  refine ⟨exit_perform_of_failure surroundings opening command, ?_⟩
  unfold perform
  cases command with
  | add request dryRun => simpa only [runAdd, opening, files_ofStep] using there
  | rules request => simpa only [files_ofStep] using there
  | doctor asJson => simpa only [files_ofStep] using there

end Performing

section Keeping

variable {files : Files} {opened : Opened} {request : Request}

theorem access_of_created {database : Database} {on : Date} {coverage : Coverage}
    (created : (Gate.createCoverage database request on).result.outcome = .ok coverage) :
    database.access = .readWrite := by
  cases checked : (Gate.runChecks database request on).outcome with
  | error failure => simp [(Gate.createCoverage_of_failure checked).2] at created
  | ok value =>
      rw [(Gate.createCoverage_of_checks checked).2, Gate.result_insertCoverage] at created
      cases inserted : database.insert Gate.ledgerName (Gate.coverageRow request) with
      | error fault => simp [inserted, Except.map] at created
      | ok result =>
          obtain ⟨table, _, found, known, _⟩ := Database.insert_ok inserted
          rw [Database.insert_of_table found, known] at inserted
          cases allowed : database.access <;> simp [allowed] at inserted ⊢

theorem keep_of_unchanged (files : Files) (opened : Opened) :
    opened.keep files opened.database = files := by
  unfold Opened.keep
  cases opened.entry <;> simp

theorem keep_of_grown {after : Database} {row : Row} (source : OpenedFrom files opened)
    (writable : opened.database.access = .readWrite)
    (records : Gate.Records opened.database request row)
    (grown : Database.Grown Gate.ledgerName opened.database after [row]) :
    ∃ name stored, opened.entry = some name ∧ files.find? name = some (.database stored) ∧
      opened.database = reopened stored ∧
      opened.keep files after = files.write name (.database after) := by
  obtain ⟨table, found, _⟩ := records
  cases source with
  | blank access asEmpty =>
      rw [asEmpty] at found
      cases found
  | stored name stored access entry kept asKept =>
      have changed := grown.ne
      have writableAfter : after.access = .readWrite := grown.access_eq.trans writable
      refine ⟨name, stored, entry, kept, ?_, ?_⟩
      · rw [asKept] at writable ⊢
        rw [reopened, ← writable]
      · simp [Opened.keep, entry, writableAfter, changed]

theorem isSome_find?_perform {settings : Settings} {name : String}
    (made : ((filesOnceOpen files settings.database).find? name).isSome = true)
    (surroundings : Surroundings) (command : Command) :
    ((perform surroundings files settings command).files.find? name).isSome = true := by
  unfold perform
  cases command with
  | add request dryRun =>
      simp only [files_ofStep]
      unfold runAdd
      dsimp only
      split
      · exact made
      · rename_i other opening
        exact isSome_find?_keep (openPath_of_openDatabase opening) made _
  | rules request => simpa only [files_ofStep] using made
  | doctor asJson => simpa only [files_ofStep] using made

/-- A command leaves its files as they were, or it has added a coverage to the database that it opened
from one of them. -/
theorem perform_cases (surroundings : Surroundings) {settings : Settings}
    (there : filesOnceOpen files settings.database = files)
    (opens : openPath files settings.database = .ok opened)
    (patient : settings.busyTimeout.toNat ≤ longestTimeout) (command : Command) :
    let done := perform surroundings files settings command
    (done.files = files ∧ ¬((∃ request, command = .add request false) ∧ done.exit = 0)) ∨
      ∃ request name stored after row, command = .add request false ∧ done.exit = 0 ∧
        opened.entry = some name ∧ files.find? name = some (.database stored) ∧
        opened.database = reopened stored ∧
        done.files = files.write name (.database after) ∧
        Gate.Records opened.database request row ∧
        Database.Grown Gate.ledgerName opened.database after [row] := by
  have source := openedFrom_of_openPath opens
  have exits := exit_perform surroundings opens patient command
  have ends := files_perform surroundings there opens patient command
  cases command with
  | rules request => exact Or.inl ⟨ends, by simp⟩
  | doctor asJson => exact Or.inl ⟨ends, by simp⟩
  | add request dryRun =>
      rcases addTo_cases opened.database request (settings.evaluationDate.getD surroundings.today)
        source.saved_eq_none dryRun with
        ⟨same, notAdded⟩ | ⟨rfl, accepted, row, records, grown⟩
      · refine Or.inl ⟨?_, ?_⟩
        · rw [ends]
          simp only [same]
          exact keep_of_unchanged files opened
        · rintro ⟨⟨other, asked⟩, accepted⟩
          simp only [add.injEq] at asked
          rcases notAdded with dry | ⟨failure, failed⟩
          · simp [dry] at asked
          · rw [exits, asked.2, exitOn, gateFailure?, failed] at accepted
            exact exitOf_some_ne_zero _ failure accepted
      · obtain ⟨name, stored, entry, held, atRest, kept⟩ :=
          keep_of_grown source (access_of_created accepted) records grown
        refine Or.inr ⟨request, name, stored, _, row, rfl, ?_, entry, held, atRest, ?_, records,
          grown⟩
        · rw [exits, exitOn, gateFailure?, accepted]
          rfl
        · rw [ends]
          exact kept

end Keeping

end Underwriting.Command
