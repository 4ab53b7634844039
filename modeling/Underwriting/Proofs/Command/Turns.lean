import Underwriting.Proofs.Command.Work

/-!
A run of the program on its files. The exit code says what became of the run: whether the gate rejected
the request, whether something failed, and for an addition whether the row of the coverage is in the
file of the database. Besides the log no other file changes. This is so unless the filter of the log
cannot be read at all, or the locator of the database has it made.
-/

namespace Underwriting.Command

open Store

structure Occasion where
  environment : List (String × String)
  today : Date
  engineVersion : String
  arguments : List String

structure Turn where
  before : Files
  occasion : Occasion

namespace Turn

variable (turn : Turn) (invocation : Invocation)

def surroundings : Surroundings :=
  ⟨turn.before, turn.occasion.environment, turn.occasion.today, turn.occasion.engineVersion⟩

def outcome : Outcome := run turn.surroundings turn.occasion.arguments

def logName? : Option String :=
  match openLog turn.before invocation.options with
  | .ok (_, log) => log
  | .error _ => none

structure Opens (files : Files) (log : Option String) (settings : Settings) (opened : Opened) :
    Prop where
  logOpened : openLog turn.before invocation.options = .ok (files, log)
  loaded : settingsFor turn.surroundings files invocation = .ok settings
  databaseOpened : openPath files settings.database = .ok opened

def SetUpFails : Prop :=
  (∃ fault, openLog turn.before invocation.options = .error fault) ∨
    ∃ files log, openLog turn.before invocation.options = .ok (files, log) ∧
      ((∃ fault, settingsFor turn.surroundings files invocation = .error fault) ∨
        ∃ settings fault, settingsFor turn.surroundings files invocation = .ok settings ∧
          openPath files settings.database = .error fault)

def verdict? (settings : Settings) (opened : Opened) : Option Gate.Failure :=
  gateFailure? opened (settings.evaluationDate.getD turn.occasion.today) invocation.command

def Rejects : Prop :=
  ∃ files log settings opened, turn.Opens invocation files log settings opened ∧
    ((∃ request dryRun cause, invocation.command = .add request dryRun ∧
        turn.verdict? invocation settings opened = some cause ∧ cause.isRejection = true) ∨
      ∃ request, invocation.command = .rules request ∧
        (turn.verdict? invocation settings opened = some (.contractNotFound request.contract) ∨
          turn.verdict? invocation settings opened =
            some (.coverageTypeNotFound request.coverageType)))

def TransactionFails (settings : Settings) (opened : Opened) : Prop :=
  ∃ request dryRun boundary fault, invocation.command = .add request dryRun ∧
    (addTo opened.database request (settings.evaluationDate.getD turn.occasion.today)
      dryRun).2.outcome = .error (.transaction boundary fault)

def Fails : Prop :=
  turn.SetUpFails invocation ∨
    ∃ files log settings opened, turn.Opens invocation files log settings opened ∧
      ((∃ cause, turn.verdict? invocation settings opened = some cause ∧
          cause.isRejection = false) ∨
        turn.TransactionFails invocation settings opened ∨
        ∃ asJson, invocation.command = .doctor asJson ∧ LacksTable opened.database)

def Commits : Prop := (∃ request, invocation.command = .add request false) ∧ turn.outcome.exit = 0

structure Adds (request : Request) (log : Option String) (settings : Settings) (opened : Opened)
    (name : String) (stored after : Database) (row : Row) : Prop where
  asked : invocation.command = .add request false
  keptIn : opened.entry = some name
  held : turn.before.find? name = some (.database stored)
  atRest : opened.database = reopened stored
  holds : turn.outcome.files.find? name = some (.database after)
  records : Gate.Records opened.database request row
  grown : Database.Grown Gate.ledgerName opened.database after [row]
  others : ∀ other, other ≠ name → log ≠ some other →
    turn.outcome.files.find? other = turn.before.find? other

structure Agrees : Prop where
  exits : turn.outcome.exit = 0 ∨ turn.outcome.exit = 1 ∨ turn.outcome.exit = 2
  rejected : turn.outcome.exit = 2 ↔ turn.Rejects invocation
  failed : turn.outcome.exit = 1 ↔ turn.Fails invocation
  committed : turn.Commits invocation → ∃ files log settings opened,
    turn.Opens invocation files log settings opened ∧
      ∃ request name stored after row,
        turn.Adds invocation request log settings opened name stored after row
  unchanged : ¬turn.Commits invocation → ∀ name, turn.logName? invocation ≠ some name →
    turn.outcome.files.find? name = turn.before.find? name
  missing : ∀ name, turn.logName? invocation ≠ some name → turn.before.find? name = none →
    turn.outcome.files.find? name = none

def IsPatient : Prop :=
  ∀ files log settings, openLog turn.before invocation.options = .ok (files, log) →
    settingsFor turn.surroundings files invocation = .ok settings →
      settings.busyTimeout.toNat ≤ longestTimeout

def LogsApart : Prop :=
  ∀ files log settings opened, turn.Opens invocation files log settings opened →
    ∀ name, log = some name → opened.entry ≠ some name

/-- The filter of the log can be read, or is passed over, wherever it is asked for. -/
def FilterReads : Prop :=
  ∀ files log, openLog turn.before invocation.options = .ok (files, log) →
    ∃ filter, filterFor turn.surroundings invocation.options = .ok filter

def DatabaseThere : Prop :=
  ∀ files log settings opened, turn.Opens invocation files log settings opened →
    ∀ name, opened.entry = some name → (files.find? name).isSome = true

variable {turn : Turn} {invocation : Invocation} {files : Files} {log : Option String}
  {settings : Settings} {opened : Opened}

theorem logName?_eq (logOpened : openLog turn.before invocation.options = .ok (files, log)) :
    turn.logName? invocation = log := by
  simp [logName?, logOpened]

theorem find?_of_openLog (logOpened : openLog turn.before invocation.options = .ok (files, log))
    {name : String} (apart : log ≠ some name) : files.find? name = turn.before.find? name := by
  unfold openLog at logOpened
  cases path : invocation.options.logPath with
  | none =>
      rw [path] at logOpened
      cases logOpened
      rfl
  | some path' =>
      rw [path] at logOpened
      cases touched : turn.before.touch path' with
      | error fault => simp [touched, Except.map] at logOpened
      | ok result =>
          obtain ⟨made, logName⟩ := result
          simp only [touched, Except.map, Except.ok.injEq, Prod.mk.injEq] at logOpened
          obtain ⟨rfl, rfl⟩ := logOpened
          exact Files.find?_touch_of_ne touched fun same => apart (congrArg some same.symm)

theorem outcome_eq (parsed : Invocation.ofArguments turn.occasion.arguments = .ok invocation) :
    turn.outcome =
      match openLog turn.before invocation.options with
      | .error cause => unlogged turn.before (.logging cause)
      | .ok (files, entry) =>
          match filterFor turn.surroundings invocation.options with
          | .error failure => unlogged files failure
          | .ok filter =>
              let logging : Logging :=
                ⟨invocation.options.layout, invocation.options.coloured, filter, entry⟩
              finish logging (work turn.surroundings files invocation logging) := by
  unfold outcome run
  rw [parsed]
  rfl

theorem exit_finish (logging : Logging) (work : Work) : (finish logging work).exit = work.exit := by
  unfold finish
  cases logging.entry <;> rfl

theorem find?_finish {logging : Logging} {work : Work} {name : String}
    (apart : logging.entry ≠ some name) :
    (finish logging work).files.find? name = work.files.find? name := by
  unfold finish
  cases entry : logging.entry with
  | none => rfl
  | some logName =>
      exact Files.find?_append_of_ne (fun same => apart (entry.trans (congrArg some same.symm))) _

theorem outcome_of_logged
    (parsed : Invocation.ofArguments turn.occasion.arguments = .ok invocation)
    (logOpened : openLog turn.before invocation.options = .ok (files, log))
    {filter : Log.Filter} (reads : filterFor turn.surroundings invocation.options = .ok filter) :
    ∃ logging : Logging, logging.entry = log ∧
      turn.outcome = finish logging (work turn.surroundings files invocation logging) := by
  refine ⟨⟨invocation.options.layout, invocation.options.coloured, filter, log⟩, rfl, ?_⟩
  rw [outcome_eq parsed, logOpened, reads]

theorem performLogged_of_apart {logging : Logging} (surroundings : Surroundings)
    (apart : ∀ opened, openPath files settings.database = .ok opened →
      ∀ name, logging.entry = some name → opened.entry ≠ some name) (command : Command) :
    performLogged surroundings files settings command logging =
      perform surroundings files settings command := by
  have none : sharedFile? files settings logging = none := by
    unfold sharedFile?
    cases entry : logging.entry with
    | none => rfl
    | some name =>
        cases opens : openPath files settings.database with
        | error cause => rfl
        | ok opened =>
            simp only [bind, Option.bind, Except.toOption]
            split
            · rw [if_neg (apart opened opens name entry)]
            · rfl
  unfold performLogged
  rw [none]

theorem setUpFails_or_opens (turn : Turn) (invocation : Invocation) :
    turn.SetUpFails invocation ∨
      ∃ files log settings opened, turn.Opens invocation files log settings opened := by
  cases logOpened : openLog turn.before invocation.options with
  | error fault => exact Or.inl (Or.inl ⟨fault, logOpened⟩)
  | ok result =>
      obtain ⟨files, log⟩ := result
      cases loaded : settingsFor turn.surroundings files invocation with
      | error fault => exact Or.inl (Or.inr ⟨files, log, logOpened, Or.inl ⟨fault, loaded⟩⟩)
      | ok settings =>
          cases databaseOpened : openPath files settings.database with
          | error fault =>
              exact Or.inl (Or.inr ⟨files, log, logOpened,
                Or.inr ⟨settings, fault, loaded, databaseOpened⟩⟩)
          | ok opened => exact Or.inr ⟨files, log, settings, opened, logOpened, loaded, databaseOpened⟩

theorem Opens.not_setUpFails (opens : turn.Opens invocation files log settings opened) :
    ¬turn.SetUpFails invocation := by
  rintro (⟨fault, fails⟩ | ⟨other, otherLog, logOpened, failure⟩)
  · simp [opens.logOpened] at fails
  · rw [opens.logOpened] at logOpened
    cases logOpened
    rcases failure with ⟨fault, fails⟩ | ⟨otherSettings, fault, loaded, fails⟩
    · simp [opens.loaded] at fails
    · rw [opens.loaded] at loaded
      cases loaded
      simp [opens.databaseOpened] at fails

theorem Opens.eq {otherFiles : Files} {otherLog : Option String} {otherSettings : Settings}
    {other : Opened} (opens : turn.Opens invocation files log settings opened)
    (again : turn.Opens invocation otherFiles otherLog otherSettings other) :
    files = otherFiles ∧ log = otherLog ∧ settings = otherSettings ∧ opened = other := by
  have sameLog := again.logOpened
  rw [opens.logOpened] at sameLog
  cases sameLog
  have sameSettings := again.loaded
  rw [opens.loaded] at sameSettings
  cases sameSettings
  have sameDatabase := again.databaseOpened
  rw [opens.databaseOpened] at sameDatabase
  cases sameDatabase
  exact ⟨rfl, rfl, rfl, rfl⟩

theorem outcome_of_setUpFails
    (parsed : Invocation.ofArguments turn.occasion.arguments = .ok invocation)
    (reads : turn.FilterReads invocation) (fails : turn.SetUpFails invocation) :
    turn.outcome.exit = 1 ∧ ∀ name, turn.logName? invocation ≠ some name →
      turn.outcome.files.find? name = turn.before.find? name := by
  rcases fails with ⟨fault, fails⟩ | ⟨files, log, logOpened, failure⟩
  · rw [outcome_eq parsed, fails]
    exact ⟨rfl, fun _ _ => rfl⟩
  · obtain ⟨filter, filterRead⟩ := reads files log logOpened
    obtain ⟨logging, entry, ends⟩ := outcome_of_logged parsed logOpened filterRead
    have worked : (work turn.surroundings files invocation logging).exit = 1 ∧
        (work turn.surroundings files invocation logging).files = files := by
      rcases failure with ⟨fault, fails⟩ | ⟨settings, fault, loaded, fails⟩
      · unfold work
        rw [fails]
        exact ⟨rfl, rfl⟩
      · unfold work
        rw [loaded]
        simp only
        rw [performLogged_of_apart _ (fun opened opens => by simp [fails] at opens)]
        exact perform_of_unopened _ fails invocation.command
    rw [ends, exit_finish, logName?_eq logOpened]
    refine ⟨worked.1, ?_⟩
    intro name apart
    rw [find?_finish (entry ▸ apart), worked.2, find?_of_openLog logOpened apart]

theorem outcome_of_opens
    (parsed : Invocation.ofArguments turn.occasion.arguments = .ok invocation)
    (apart : turn.LogsApart invocation) (reads : turn.FilterReads invocation)
    (opens : turn.Opens invocation files log settings opened) :
    turn.outcome.exit = (perform turn.surroundings files settings invocation.command).exit ∧
      ∀ name, log ≠ some name → turn.outcome.files.find? name =
        (perform turn.surroundings files settings invocation.command).files.find? name := by
  obtain ⟨filter, filterRead⟩ := reads files log opens.logOpened
  obtain ⟨logging, entry, ends⟩ := outcome_of_logged parsed opens.logOpened filterRead
  have whole : work turn.surroundings files invocation logging =
      perform turn.surroundings files settings invocation.command := by
    unfold work
    rw [opens.loaded]
    apply performLogged_of_apart
    intro other otherOpened name logged
    exact apart files log settings other ⟨opens.logOpened, opens.loaded, otherOpened⟩ name
      (entry ▸ logged)
  rw [ends, whole, exit_finish]
  refine ⟨rfl, ?_⟩
  intro name nameApart
  exact find?_finish (entry ▸ nameApart)

theorem agrees_of_setUpFails
    (parsed : Invocation.ofArguments turn.occasion.arguments = .ok invocation)
    (reads : turn.FilterReads invocation) (fails : turn.SetUpFails invocation) :
    turn.Agrees invocation := by
  obtain ⟨exits, frame⟩ := outcome_of_setUpFails parsed reads fails
  refine ⟨?_, ?_, ?_, ?_, ?_, ?_⟩
  · exact Or.inr (Or.inl exits)
  · refine ⟨fun rejected => by simp [exits] at rejected, ?_⟩
    rintro ⟨files, log, settings, opened, opens, _⟩
    exact absurd fails opens.not_setUpFails
  · exact ⟨fun _ => Or.inl fails, fun _ => exits⟩
  · rintro ⟨_, accepted⟩
    simp [exits] at accepted
  · exact fun _ => frame
  · exact fun name apart absent => (frame name apart).trans absent

theorem rejects_iff (opens : turn.Opens invocation files log settings opened) :
    turn.Rejects invocation ↔ ∃ cause, turn.verdict? invocation settings opened = some cause ∧
      cause.isRejection = true := by
  constructor
  · rintro ⟨_, _, _, _, again, rejected⟩
    obtain ⟨_, _, rfl, rfl⟩ := opens.eq again
    rcases rejected with ⟨_, _, cause, _, met, rejection⟩ | ⟨request, _, met | met⟩
    · exact ⟨cause, met, rejection⟩
    · exact ⟨_, met, rfl⟩
    · exact ⟨_, met, rfl⟩
  · rintro ⟨cause, met, rejection⟩
    refine ⟨files, log, settings, opened, opens, ?_⟩
    cases asked : invocation.command with
    | add request dryRun => exact Or.inl ⟨request, dryRun, cause, rfl, met, rejection⟩
    | rules request =>
        refine Or.inr ⟨request, rfl, ?_⟩
        have onRules := met
        rw [verdict?, asked] at onRules
        rcases rejection_of_rules onRules rejection with rfl | rfl
        · exact Or.inl met
        · exact Or.inr met
    | doctor asJson =>
        rw [verdict?, asked] at met
        simp [no_rejection_of_doctor met] at rejection

theorem Opens.not_transactionFails (opens : turn.Opens invocation files log settings opened) :
    ¬turn.TransactionFails invocation settings opened := by
  rintro ⟨request, dryRun, boundary, fault, _, refused⟩
  have rest := saved_of_openPath opens.databaseOpened
  exact outcome_addTo_ne_transaction _ _ _ rest dryRun boundary fault refused

theorem fails_iff (opens : turn.Opens invocation files log settings opened) :
    turn.Fails invocation ↔
      (∃ cause, turn.verdict? invocation settings opened = some cause ∧
          cause.isRejection = false) ∨
        turn.verdict? invocation settings opened = none ∧
          fallsShort opened invocation.command = true := by
  constructor
  · rintro (fails | ⟨_, _, _, _, again, failed⟩)
    · exact absurd fails opens.not_setUpFails
    · obtain ⟨_, _, rfl, rfl⟩ := opens.eq again
      rcases failed with failure | refused | ⟨asJson, asked, lacks⟩
      · exact Or.inl failure
      · exact absurd refused opens.not_transactionFails
      · cases met : turn.verdict? invocation settings opened with
        | none => exact Or.inr ⟨rfl, by simp [fallsShort, asked, lacks]⟩
        | some cause =>
            rw [verdict?, asked] at met
            exact Or.inl ⟨cause, rfl, no_rejection_of_doctor met⟩
  · intro failed
    refine Or.inr ⟨files, log, settings, opened, opens, ?_⟩
    rcases failed with failure | ⟨_, short⟩
    · exact Or.inl failure
    · cases asked : invocation.command with
      | add request dryRun => simp [fallsShort, asked] at short
      | rules request => simp [fallsShort, asked] at short
      | doctor asJson => exact Or.inr (Or.inr ⟨asJson, rfl, by simpa [fallsShort, asked] using short⟩)

theorem filesOnceOpen_of_there (opens : turn.Opens invocation files log settings opened)
    (there : turn.DatabaseThere invocation) : filesOnceOpen files settings.database = files := by
  have present := there files log settings opened opens
  unfold filesOnceOpen
  rw [opens.databaseOpened]
  obtain ⟨database, name, entry⟩ := opened
  cases entry with
  | none => rfl
  | some entry => simp [present entry rfl]

theorem exit_of_opens
    (parsed : Invocation.ofArguments turn.occasion.arguments = .ok invocation)
    (patient : turn.IsPatient invocation) (apart : turn.LogsApart invocation)
    (reads : turn.FilterReads invocation)
    (opens : turn.Opens invocation files log settings opened) :
    turn.outcome.exit =
      exitOf (fallsShort opened invocation.command) (turn.verdict? invocation settings opened) := by
  have waits := patient files log settings opens.logOpened opens.loaded
  rw [(outcome_of_opens parsed apart reads opens).1]
  exact exit_perform _ opens.databaseOpened waits invocation.command

theorem agrees_of_unchanged (opens : turn.Opens invocation files log settings opened)
    (exits : turn.outcome.exit =
      exitOf (fallsShort opened invocation.command) (turn.verdict? invocation settings opened))
    (notCommitted : ¬turn.Commits invocation)
    (frame : ∀ name, turn.logName? invocation ≠ some name →
      turn.outcome.files.find? name = turn.before.find? name) : turn.Agrees invocation where
  exits := exits ▸ exitOf_cases _ _
  rejected := by rw [exits, exitOf_eq_two_iff, rejects_iff opens]
  failed := by rw [exits, exitOf_eq_one_iff, fails_iff opens]
  committed := fun committed => absurd committed notCommitted
  unchanged := fun _ => frame
  missing := fun name nameApart absent => (frame name nameApart).trans absent

theorem agrees_of_added {request : Request} {name : String} {stored after : Database} {row : Row}
    (opens : turn.Opens invocation files log settings opened)
    (exits : turn.outcome.exit =
      exitOf (fallsShort opened invocation.command) (turn.verdict? invocation settings opened))
    (committed : turn.Commits invocation)
    (adds : turn.Adds invocation request log settings opened name stored after row) :
    turn.Agrees invocation where
  exits := exits ▸ exitOf_cases _ _
  rejected := by rw [exits, exitOf_eq_two_iff, rejects_iff opens]
  failed := by rw [exits, exitOf_eq_one_iff, fails_iff opens]
  committed := fun _ =>
    ⟨files, log, settings, opened, opens, request, name, stored, after, row, adds⟩
  unchanged := fun notCommitted => absurd committed notCommitted
  missing := by
    intro other otherApart absent
    have different : other ≠ name := by
      rintro rfl
      simp [adds.held] at absent
    rw [adds.others other different (logName?_eq opens.logOpened ▸ otherApart), absent]

theorem agrees_of_opens
    (parsed : Invocation.ofArguments turn.occasion.arguments = .ok invocation)
    (patient : turn.IsPatient invocation) (apart : turn.LogsApart invocation)
    (reads : turn.FilterReads invocation) (there : turn.DatabaseThere invocation)
    (opens : turn.Opens invocation files log settings opened) : turn.Agrees invocation := by
  have kept := filesOnceOpen_of_there opens there
  have waits := patient files log settings opens.logOpened opens.loaded
  have exits := exit_of_opens parsed patient apart reads opens
  obtain ⟨sameExit, sameFiles⟩ := outcome_of_opens parsed apart reads opens
  have still {name : String} (nameApart : log ≠ some name) :
      files.find? name = turn.before.find? name :=
    find?_of_openLog opens.logOpened nameApart
  rcases perform_cases turn.surroundings kept opens.databaseOpened waits invocation.command with
    ⟨same, notAdded⟩ | ⟨request, name, stored, after, row, asked, accepted, entry, held, atRest,
      written, records, grown⟩
  · apply agrees_of_unchanged opens exits
    · rintro ⟨asked, accepted⟩
      exact notAdded ⟨asked, sameExit ▸ accepted⟩
    · intro name nameApart
      rw [logName?_eq opens.logOpened] at nameApart
      rw [sameFiles name nameApart, same, still nameApart]
  · have nameApart : log ≠ some name := fun logged =>
      apart files log settings opened opens name logged entry
    have committed : turn.Commits invocation := ⟨⟨request, asked⟩, sameExit.trans accepted⟩
    have adds : turn.Adds invocation request log settings opened name stored after row := by
      refine ⟨asked, entry, (still nameApart).symm.trans held, atRest, ?_, records, grown, ?_⟩
      · rw [sameFiles name nameApart, written, Files.find?_write_self]
      · intro other different otherApart
        rw [sameFiles other otherApart, written, Files.find?_write_of_ne different,
          still otherApart]
    exact agrees_of_added opens exits committed adds

theorem torn_of_filterFor {surroundings : Surroundings} {options : Options} {failure : Failure}
    (fails : filterFor surroundings options = .error failure) : failure = .tornFilter := by
  unfold filterFor at fails
  dsimp only at fails
  split at fails
  · cases fails
  · split at fails
    · cases fails
    · cases fails
      rfl
    · cases fails

theorem made_of_missing (opens : turn.Opens invocation files log settings opened) {name : String}
    (entry : opened.entry = some name) (absent : files.find? name = none) :
    ((filesOnceOpen files settings.database).find? name).isSome = true := by
  unfold filesOnceOpen
  rw [opens.databaseOpened]
  obtain ⟨database, shown, kept⟩ := opened
  cases entry
  simp [absent, Files.find?_write_self]

/-- A run agrees with what was decided exactly if the filter of its log can be read and its database
did not have to be made. -/
theorem agrees_iff_orderly
    (parsed : Invocation.ofArguments turn.occasion.arguments = .ok invocation)
    (patient : turn.IsPatient invocation) (apart : turn.LogsApart invocation) :
    turn.Agrees invocation ↔ turn.FilterReads invocation ∧ turn.DatabaseThere invocation := by
  constructor
  · intro agrees
    have reads : turn.FilterReads invocation := by
      intro files log logOpened
      cases filterRead : filterFor turn.surroundings invocation.options with
      | ok filter => exact ⟨filter, rfl⟩
      | error failure =>
          have exits := agrees.exits
          rw [outcome_eq parsed, logOpened, filterRead, torn_of_filterFor filterRead] at exits
          simp [unlogged, Failure.exit, Failure.abandonedExit] at exits
    refine ⟨reads, ?_⟩
    intro files log settings opened opens name entry
    have logApart : log ≠ some name := fun logged =>
      apart files log settings opened opens name logged entry
    cases found : files.find? name with
    | some content => rfl
    | none =>
        -- The file was made when the database was opened, and nothing removes it.
        have made := isSome_find?_perform (made_of_missing opens entry found) turn.surroundings
          invocation.command
        have absent : turn.before.find? name = none :=
          (find?_of_openLog opens.logOpened logApart).symm.trans found
        have nowhere := agrees.missing name ((logName?_eq opens.logOpened).symm ▸ logApart) absent
        rw [(outcome_of_opens parsed apart reads opens).2 name logApart] at nowhere
        simp [nowhere] at made
  · rintro ⟨reads, there⟩
    rcases setUpFails_or_opens turn invocation with fails | ⟨files, log, settings, opened, opens⟩
    · exact agrees_of_setUpFails parsed reads fails
    · exact agrees_of_opens parsed patient apart reads there opens

end Turn

end Underwriting.Command
