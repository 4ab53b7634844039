import Underwriting.Proofs.Command.Turns

/-!
Runs of the program one behind the other, each over the files that the one in front of it left. The
ledger of a database that no log is kept in gains one row for each addition that was committed to it,
in the order of the runs.
-/

namespace Underwriting.Command

open Store

def turns (files : Files) : List Occasion → List Turn
  | [] => []
  | occasion :: rest =>
      let turn : Turn := ⟨files, occasion⟩
      turn :: turns turn.outcome.files rest

def filesAfter (files : Files) : List Occasion → Files
  | [] => files
  | occasion :: rest => filesAfter (Turn.outcome ⟨files, occasion⟩).files rest

/-- The runs whose arguments can be read, that do not wait too long and whose log is not the database
agree with what was decided. -/
def RunsAgree (files : Files) (occasions : List Occasion) : Prop :=
  ∀ turn ∈ turns files occasions, ∀ invocation,
    Invocation.ofArguments turn.occasion.arguments = .ok invocation →
      turn.IsPatient invocation → turn.LogsApart invocation → turn.Agrees invocation

/-- Runs agree with what was decided exactly if each of them finds its database and can read the filter
of its log. -/
theorem runsAgree_iff (files : Files) (occasions : List Occasion) :
    RunsAgree files occasions ↔
      ∀ turn ∈ turns files occasions, ∀ invocation,
        Invocation.ofArguments turn.occasion.arguments = .ok invocation →
          turn.IsPatient invocation → turn.LogsApart invocation →
            turn.FilterReads invocation ∧ turn.DatabaseThere invocation := by
  constructor
  · intro agree turn member invocation parsed patient apart
    exact (Turn.agrees_iff_orderly parsed patient apart).mp
      (agree turn member invocation parsed patient apart)
  · intro orderly turn member invocation parsed patient apart
    exact (Turn.agrees_iff_orderly parsed patient apart).mpr
      (orderly turn member invocation parsed patient apart)

def makingLocator : String := "file:new.db?mode=memory&mode=rwc"

def makingOccasion : Occasion :=
  ⟨[], Sample.day, "3.46.0", ["--database", makingLocator, "doctor"]⟩

def emptyDirectory : Files := ⟨"/work", []⟩

/-- The last mode of a locator is not held against the one before a mode without a file, so that it has
a missing file made. -/
theorem not_runsAgree_making_database : ¬RunsAgree emptyDirectory [makingOccasion] := by
  intro agree
  let turn : Turn := ⟨emptyDirectory, makingOccasion⟩
  let invocation : Invocation :=
    ⟨{ Options.none with database := some makingLocator }, .doctor false⟩
  have parsed : Invocation.ofArguments turn.occasion.arguments = .ok invocation := by
    decide +kernel
  have logless : openLog turn.before invocation.options = .ok (emptyDirectory, none) := rfl
  have loaded : settingsFor turn.surroundings emptyDirectory invocation =
      .ok ⟨makingLocator, 5000, none⟩ := by
    decide +kernel
  have patient : turn.IsPatient invocation := by
    intro files log settings logOpened settingsLoaded
    rw [logless] at logOpened
    cases logOpened
    rw [loaded] at settingsLoaded
    cases settingsLoaded
    decide
  have apart : turn.LogsApart invocation := by
    intro files log settings opened opens name logged
    have same := opens.logOpened
    rw [logless] at same
    cases same
    cases logged
  have agrees := agree turn List.mem_cons_self invocation parsed patient apart
  have nowhere := agrees.missing "new.db" (by rw [Turn.logName?_eq logless]; simp) rfl
  have made : (turn.outcome.files.find? "new.db").isSome = true := by decide +kernel
  rw [nowhere] at made
  cases made

def Turn.committed? (turn : Turn) (name : String) : Option Request :=
  match Invocation.ofArguments turn.occasion.arguments with
  | .ok ⟨_, .add request false⟩ =>
      if turn.outcome.exit = 0 ∧ turn.outcome.files.find? name ≠ turn.before.find? name then
        some request
      else none
  | _ => none

def Turn.Minds (turn : Turn) (name : String) : Prop :=
  ∀ invocation, Invocation.ofArguments turn.occasion.arguments = .ok invocation →
    turn.Agrees invocation ∧ turn.logName? invocation ≠ some name

theorem committed?_of_same {turn : Turn} {name : String}
    (same : turn.outcome.files.find? name = turn.before.find? name) :
    turn.committed? name = none := by
  unfold Turn.committed?
  split
  · simp [same]
  · rfl

theorem reopened_of_grown {stored after : Database} {added : List Row}
    (grown : Database.Grown Gate.ledgerName (reopened stored) after added) :
    reopened after = after := by
  have saved : after.saved = none := grown.saved_eq
  have access : after.access = .readWrite := grown.access_eq
  obtain ⟨relations, _, _⟩ := after
  simp only at saved access
  subst saved access
  rfl

theorem ne_of_grown {stored after : Database} {row : Row}
    (grown : Database.Grown Gate.ledgerName (reopened stored) after [row]) : after ≠ stored := by
  rintro rfl
  exact grown.ne (reopened_of_grown grown).symm

theorem committed?_of_adds {turn : Turn} {invocation : Invocation} {request : Request}
    {log : Option String} {settings : Settings} {opened : Opened} {name : String}
    {stored after : Database} {row : Row}
    (parsed : Invocation.ofArguments turn.occasion.arguments = .ok invocation)
    (commits : turn.Commits invocation)
    (adds : turn.Adds invocation request log settings opened name stored after row) :
    turn.committed? name = some request := by
  have changed : after ≠ stored := ne_of_grown (adds.atRest ▸ adds.grown)
  have accepted := commits.2
  have asked := adds.asked
  obtain ⟨options, command⟩ := invocation
  simp only at asked
  subst asked
  simp [Turn.committed?, parsed, accepted, adds.holds, adds.held, changed]

theorem turn_grows {turn : Turn} {name : String} (minds : turn.Minds name) {stored : Database}
    (held : turn.before.find? name = some (.database stored)) :
    ∃ last rows, turn.outcome.files.find? name = some (.database last) ∧
      List.Forall₂ (Gate.Records (reopened stored)) (turn.committed? name).toList rows ∧
      Database.Grown Gate.ledgerName (reopened stored) (reopened last) rows := by
  have unchanged (same : turn.outcome.files.find? name = turn.before.find? name) :
      ∃ last rows, turn.outcome.files.find? name = some (.database last) ∧
        List.Forall₂ (Gate.Records (reopened stored)) (turn.committed? name).toList rows ∧
        Database.Grown Gate.ledgerName (reopened stored) (reopened last) rows := by
    refine ⟨stored, [], same.trans held, ?_, Database.Grown.refl _ _⟩
    rw [committed?_of_same same]
    exact List.Forall₂.nil
  cases parsed : Invocation.ofArguments turn.occasion.arguments with
  | error stop =>
      apply unchanged
      have stops : turn.outcome = stopped turn.before stop := by
        unfold Turn.outcome run
        rw [parsed]
        rfl
      rw [stops]
      cases stop <;> rfl
  | ok invocation =>
      obtain ⟨agrees, logApart⟩ := minds invocation parsed
      by_cases commits : turn.Commits invocation
      · obtain ⟨files, log, settings, opened, opens, request, other, otherStored, after, row, adds⟩ :=
          agrees.committed commits
        by_cases here : name = other
        · subst here
          have sameStored := adds.held
          rw [held] at sameStored
          cases sameStored
          have asReopened : opened.database = reopened stored := adds.atRest
          have records := asReopened ▸ adds.records
          have grown := asReopened ▸ adds.grown
          refine ⟨after, [row], adds.holds, ?_, ?_⟩
          · rw [committed?_of_adds parsed commits adds]
            exact List.Forall₂.cons records List.Forall₂.nil
          · rwa [reopened_of_grown grown]
        · apply unchanged
          rw [Turn.logName?_eq opens.logOpened] at logApart
          exact adds.others name here logApart
      · exact unchanged (agrees.unchanged commits name logApart)

/-- The ledger in a file after any runs that mind it: it has gained the rows of the additions that were
committed to it, and nothing else in its database has changed. -/
theorem turns_grow {name : String} {files : Files} {occasions : List Occasion}
    (minds : ∀ turn ∈ turns files occasions, turn.Minds name) {stored : Database}
    (held : files.find? name = some (.database stored)) :
    ∃ last rows, (filesAfter files occasions).find? name = some (.database last) ∧
      List.Forall₂ (Gate.Records (reopened stored))
        ((turns files occasions).filterMap (·.committed? name)) rows ∧
      Database.Grown Gate.ledgerName (reopened stored) (reopened last) rows := by
  induction occasions generalizing files stored with
  | nil => exact ⟨stored, [], held, List.Forall₂.nil, Database.Grown.refl _ _⟩
  | cons occasion rest ih =>
      let turn : Turn := ⟨files, occasion⟩
      obtain ⟨between, first, heldBetween, firstRecords, firstGrown⟩ :=
        turn_grows (minds turn List.mem_cons_self) held
      obtain ⟨last, others, heldLast, otherRecords, otherGrown⟩ :=
        ih (fun later member => minds later (List.mem_cons_of_mem turn member)) heldBetween
      have fromStart := otherRecords.imp fun _ _ => Gate.Records.of_grown firstGrown
      refine ⟨last, first ++ others, heldLast, ?_, firstGrown.trans otherGrown⟩
      have split : (turns files (occasion :: rest)).filterMap (·.committed? name) =
          (turn.committed? name).toList ++
            (turns turn.outcome.files rest).filterMap (·.committed? name) := by
        simp only [turns, List.filterMap_cons]
        cases turn.committed? name <;> rfl
      rw [split]
      exact List.rel_append firstRecords fromStart

end Underwriting.Command
