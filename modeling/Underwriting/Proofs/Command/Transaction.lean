import Underwriting.Command.Perform
import Underwriting.Proofs.Command.StoredFiles
import Underwriting.Proofs.Gate.Explanation
import Underwriting.Proofs.Gate.Independence

/-!
Adding a coverage in a transaction. Inside of a transaction the gate answers as it does outside, a
transaction that is not committed leaves the database as it was opened, and a committed one leaves it
with the one row of the request. A database at rest refuses no step of a transaction, so what adding
comes to is decided by the gate alone.
-/

namespace Underwriting.Command

open Store

section Gate

variable (database : Database) (request : Request) (on : Date)

theorem runChecks_beginTransaction :
    Gate.runChecks database.beginTransaction request on = Gate.runChecks database request on := by
  have same : Database.SameSchema database.beginTransaction database := fun _ => rfl
  exact Gate.runChecks_congr same (Database.agreeOn_of_sources same (fun _ _ => rfl) _ _) on

theorem count_insert_beginTransaction (name : String) (assignments : List (String × Value)) :
    (database.beginTransaction.insert name assignments).map Prod.snd =
      (database.insert name assignments).map Prod.snd := by
  have sourced : database.beginTransaction.source name = database.source name := rfl
  unfold Database.insert
  rw [sourced]
  cases database.source name with
  | error fault => rfl
  | ok relation =>
      cases relation with
      | view view columns rows => rfl
      | table base =>
          simp only [bind, Except.bind]
          cases base.unknownColumn? assignments with
          | some column => rfl
          | none =>
              change (if database.access = .readOnly then _ else _ : Except Fault _).map _ = _
              simp only
              split
              · rfl
              · cases base.insert assignments <;> rfl

theorem result_createCoverage_beginTransaction :
    (Gate.createCoverage database.beginTransaction request on).result =
      (Gate.createCoverage database request on).result := by
  apply Gate.result_createCoverage_congr (runChecks_beginTransaction database request on)
  rw [Gate.result_insertCoverage, Gate.result_insertCoverage, count_insert_beginTransaction]

end Gate

theorem grown_commit {name : String} {database after : Database} {added : List Row}
    (rest : database.saved = none)
    (grown : Database.Grown name database.beginTransaction after added) :
    Database.Grown name database after.commit added where
  others := by
    have same := congrArg Database.commit grown.others
    have atRest : (database.drop name).commit = database.drop name := by
      simp only [Database.commit, Database.drop, rest]
    exact same.trans atRest
  rows := grown.rows
  absent := grown.absent
  unchanged := by
    intro none
    rw [grown.unchanged none]
    simp only [Database.commit, Database.beginTransaction, ← rest]

theorem rollback_eq {name : String} {database after : Database} {added : List Row}
    (rest : database.saved = none)
    (grown : Database.Grown name database.beginTransaction after added) :
    after.rollback = database := by
  have saved := grown.saved_eq
  have access := grown.access_eq
  obtain ⟨relations, _, allowed⟩ := database
  simp only at rest
  subst rest
  simp only [Database.beginTransaction, Option.getD_none] at saved access
  simp [Database.rollback, saved, access]

section Steps

def settled (database : Database) : Except Failure AddOutcome → Database
  | .ok (.added _) => database.commit
  | _ => database.rollback

theorem startTransaction_of_rest {database : Database} (rest : database.saved = none) :
    database.startTransaction = .ok database.beginTransaction := by
  simp [Database.startTransaction, rest]

theorem endTransaction_of_started {database : Database} {kept : List Relation}
    (started : database.saved = some kept) (attempt : Except Failure AddOutcome) :
    endTransaction database attempt = (settled database attempt, .ok ()) := by
  have commits : database.commitTransaction = .ok database.commit := by
    simp [Database.commitTransaction, started]
  have rollsBack : database.rollBackTransaction = .ok database.rollback := by
    simp [Database.rollBackTransaction, started]
  unfold endTransaction
  split
  · rw [commits]
    rfl
  · rename_i outcome notAdded
    rw [rollsBack]
    cases outcome with
    | added coverage => exact absurd rfl (notAdded coverage)
    | validated => rfl
    | rejected cause => rfl
  · rfl

variable (database : Database) (request : Request) (on : Date)

/-- An attempt leaves it open whether the transaction around it is committed. -/
theorem saved_attemptToAdd (dryRun : Bool) :
    (attemptToAdd database request on dryRun).1.saved = database.saved := by
  cases dryRun with
  | true => rfl
  | false =>
      change (Gate.createCoverage database request on).database.saved = database.saved
      rcases Gate.createCoverage_cases database request on with
        ⟨_, _, same⟩ | ⟨_, _, _, _, grown⟩
      · rw [same]
      · exact grown.saved_eq

theorem addTo_of_started {kept : List Relation} (started : database.saved = some kept)
    (dryRun : Bool) :
    addTo database request on dryRun =
      (database, .fail (.transaction .start .transactionOpen)) := by
  simp [addTo, Database.startTransaction, started]

theorem addTo_of_rest (rest : database.saved = none) (dryRun : Bool) :
    addTo database request on dryRun =
      let (reached, attempt) := attemptToAdd database.beginTransaction request on dryRun
      (settled reached attempt.outcome, do
        let outcome ← attempt
        reportOutcome outcome
        return ⟨request, on, outcome⟩) := by
  have started : (attemptToAdd database.beginTransaction request on dryRun).1.saved =
      some (database.saved.getD database.relations) :=
    saved_attemptToAdd database.beginTransaction request on dryRun
  unfold addTo
  rw [startTransaction_of_rest rest]
  dsimp only
  rw [endTransaction_of_started started]
  rfl

end Steps

end Underwriting.Command
