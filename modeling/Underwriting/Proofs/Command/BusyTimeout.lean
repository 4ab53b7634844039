import Underwriting.Proofs.Command.Turns

/-!
Runs that are abandoned. A run that has accepted its settings ends with a result or a failure of its
own, unless it can open its database and is to wait for it longer than the store can count. This is
so for every command, and also where the log is kept in the file of the database.
-/

namespace Underwriting.Command

open Store

theorem isSome_find?_of_sharedFile? {files : Files} {settings : Settings} {logging : Logging}
    {name : String} {content : List UInt8}
    (shared : sharedFile? files settings logging = some (name, content)) :
    (files.find? name).isSome = true := by
  simp only [sharedFile?, bind, Option.bind_eq_some_iff] at shared
  obtain ⟨entry, _, opened, _, held⟩ := shared
  split at held
  · next found =>
      split at held
      · cases held
        rw [found]
        rfl
      · cases held
  · cases held

/-- Where the log is kept in the file of the database, the command finds other contents under the
same names. -/
theorem exists_exit_performLogged (surroundings : Surroundings) (files : Files)
    (settings : Settings) (command : Command) (logging : Logging) :
    ∃ met : Files, files.SameNames met ∧
      (performLogged surroundings files settings command logging).exit =
        (perform surroundings met settings command).exit := by
  unfold performLogged
  cases shared : sharedFile? files settings logging with
  | none => exact ⟨files, ⟨rfl, rfl⟩, rfl⟩
  | some found =>
      obtain ⟨name, content⟩ := found
      dsimp only
      split
      · exact ⟨files, ⟨rfl, rfl⟩, rfl⟩
      · exact ⟨_, Files.sameNames_write (isSome_find?_of_sharedFile? shared) _, rfl⟩

namespace Turn

structure Configures (turn : Turn) (invocation : Invocation) (files : Files) (log : Option String)
    (settings : Settings) : Prop where
  logOpened : openLog turn.before invocation.options = .ok (files, log)
  filterRead : ∃ filter, filterFor turn.surroundings invocation.options = .ok filter
  loaded : settingsFor turn.surroundings files invocation = .ok settings

/-- A run that accepts its settings ends with one of the exit codes of the program. -/
def Concludes (turn : Turn) : Prop :=
  ∀ invocation files log settings,
    Invocation.ofArguments turn.occasion.arguments = .ok invocation →
      turn.Configures invocation files log settings →
        turn.outcome.exit = 0 ∨ turn.outcome.exit = 1 ∨ turn.outcome.exit = 2

variable {turn : Turn} {invocation : Invocation} {files : Files} {log : Option String}
  {settings : Settings}

theorem Configures.exists_exit
    (parsed : Invocation.ofArguments turn.occasion.arguments = .ok invocation)
    (configures : turn.Configures invocation files log settings) :
    ∃ met : Files, files.SameNames met ∧
      turn.outcome.exit = (perform turn.surroundings met settings invocation.command).exit := by
  obtain ⟨filter, filterRead⟩ := configures.filterRead
  obtain ⟨logging, _, ends⟩ := outcome_of_logged parsed configures.logOpened filterRead
  rw [ends, exit_finish, work, configures.loaded]
  exact exists_exit_performLogged turn.surroundings files settings invocation.command logging

theorem Configures.exit_of_impatient
    (parsed : Invocation.ofArguments turn.occasion.arguments = .ok invocation)
    (configures : turn.Configures invocation files log settings) {opened : Opened}
    (opens : openPath files settings.database = .ok opened)
    (impatient : longestTimeout < settings.busyTimeout.toNat) :
    turn.outcome.exit = Failure.abandonedExit := by
  obtain ⟨met, same, exits⟩ := configures.exists_exit parsed
  obtain ⟨otherOpened, otherOpens⟩ := same.openPath_ok opens
  have opening : (openDatabase met settings).outcome = .error .timeoutTooLong := by
    rw [openDatabase_of_impatient otherOpens impatient]
    rfl
  rw [exits]
  exact exit_perform_of_failure turn.surroundings opening invocation.command

theorem Configures.exit_of_unopened
    (parsed : Invocation.ofArguments turn.occasion.arguments = .ok invocation)
    (configures : turn.Configures invocation files log settings) {cause : OpenFault}
    (fails : openPath files settings.database = .error cause) :
    turn.outcome.exit = Failure.failedExit := by
  obtain ⟨met, same, exits⟩ := configures.exists_exit parsed
  rw [exits]
  exact (perform_of_unopened turn.surroundings (same.openPath_error fails) invocation.command).1

theorem Configures.exit_of_patient
    (parsed : Invocation.ofArguments turn.occasion.arguments = .ok invocation)
    (configures : turn.Configures invocation files log settings) {opened : Opened}
    (opens : openPath files settings.database = .ok opened)
    (patient : settings.busyTimeout.toNat ≤ longestTimeout) :
    turn.outcome.exit = 0 ∨ turn.outcome.exit = 1 ∨ turn.outcome.exit = 2 := by
  obtain ⟨met, same, exits⟩ := configures.exists_exit parsed
  obtain ⟨otherOpened, otherOpens⟩ := same.openPath_ok opens
  rw [exits, exit_perform turn.surroundings otherOpens patient]
  exact exitOf_cases _ _

/-- Settings that ask for no longer wait than the store can count, or for no database that opens. -/
def CanWait (files : Files) (settings : Settings) : Prop :=
  settings.busyTimeout.toNat ≤ longestTimeout ∨
    ∃ cause, openPath files settings.database = .error cause

theorem Configures.concludes_of_canWait
    (parsed : Invocation.ofArguments turn.occasion.arguments = .ok invocation)
    (configures : turn.Configures invocation files log settings)
    (canWait : CanWait files settings) :
    turn.outcome.exit = 0 ∨ turn.outcome.exit = 1 ∨ turn.outcome.exit = 2 := by
  cases opens : openPath files settings.database with
  | error cause => exact Or.inr (Or.inl (configures.exit_of_unopened parsed opens))
  | ok opened =>
      rcases canWait with patient | ⟨cause, fails⟩
      · exact configures.exit_of_patient parsed opens patient
      · rw [opens] at fails
        cases fails

theorem Configures.abandoned_of_not_canWait
    (parsed : Invocation.ofArguments turn.occasion.arguments = .ok invocation)
    (configures : turn.Configures invocation files log settings)
    (cannotWait : ¬CanWait files settings) : turn.outcome.exit = Failure.abandonedExit := by
  obtain ⟨impatient, opens⟩ := not_or.mp cannotWait
  cases opening : openPath files settings.database with
  | error cause => exact absurd ⟨cause, opening⟩ opens
  | ok opened => exact configures.exit_of_impatient parsed opening (Nat.not_le.mp impatient)

/-- A run concludes exactly if the settings that it accepts ask it to wait no longer than the store
can count or name a database that cannot be opened; any other run that accepts its settings is
abandoned. -/
theorem concludes_iff (turn : Turn) :
    (turn.Concludes ↔ ∀ invocation files log settings,
      Invocation.ofArguments turn.occasion.arguments = .ok invocation →
        turn.Configures invocation files log settings → CanWait files settings) ∧
      (¬turn.Concludes → turn.outcome.exit = Failure.abandonedExit) := by
  refine ⟨⟨?_, ?_⟩, ?_⟩
  · intro concludes invocation files log settings parsed configures
    by_contra cannotWait
    have exits := concludes invocation files log settings parsed configures
    rw [configures.abandoned_of_not_canWait parsed cannotWait] at exits
    simp [Failure.abandonedExit] at exits
  · intro canWait invocation files log settings parsed configures
    exact configures.concludes_of_canWait parsed
      (canWait invocation files log settings parsed configures)
  · intro goesOn
    simp only [Concludes, not_forall] at goesOn
    obtain ⟨invocation, files, log, settings, parsed, configures, otherwise⟩ := goesOn
    apply configures.abandoned_of_not_canWait parsed
    exact fun canWait => otherwise (configures.concludes_of_canWait parsed canWait)

end Turn

def impatientSettings : String := "[database]\nbusy_timeout_ms = 2147483648\n"

def impatientDirectory : Files :=
  ⟨"/work", [("coverage.db", .database Schema.database),
    (standardSettingsPath, .bytes impatientSettings.toUTF8.toList)]⟩

def impatientTurn : Turn := ⟨impatientDirectory, ⟨[], Sample.day, "3.46.0", ["doctor"]⟩⟩

/-- One millisecond more than the store can count is accepted in the settings and asked of it. -/
theorem not_concludes_of_long_wait : ¬impatientTurn.Concludes := by
  intro concludes
  let invocation : Invocation := ⟨Options.none, .doctor false⟩
  have parsed : Invocation.ofArguments impatientTurn.occasion.arguments = .ok invocation := by
    decide +kernel
  have loaded : settingsFor impatientTurn.surroundings impatientDirectory invocation =
      .ok ⟨"coverage.db", 2147483648, none⟩ := by
    decide +kernel
  have configures : impatientTurn.Configures invocation impatientDirectory none
      ⟨"coverage.db", 2147483648, none⟩ := ⟨rfl, ⟨_, rfl⟩, loaded⟩
  have exits := concludes invocation impatientDirectory none _ parsed configures
  have abandoned : impatientTurn.outcome.exit = 101 := by decide +kernel
  simp [abandoned] at exits

end Underwriting.Command
