import Underwriting.Proofs.Gate.IgnoredAges
import Underwriting.Proofs.Gate.Ledger
import Underwriting.Store.Sample

/-!
The error log of the gate. Whatever is asked of the gate, a failed access to the data is logged as one
error where it arises and not again on its way out, and no rejection is logged as an error. A failure
by the text of a rule is returned as a failed access too, but it is not logged.
-/

namespace Underwriting.Gate

open Store

def Call.entries (database : Database) : Call → List Entry
  | .validate request on => (Gate.validate database request on).entries
  | .create request on => (createCoverage database request on).result.entries
  | .insert request => (insertCoverage database request).result.entries
  | .checkContract contract => (Gate.checkContract database contract).entries
  | .checkCoverageType coverageType => (Gate.checkCoverageType database coverageType).entries
  | .checkProduct contract coverageType =>
      (Gate.checkProduct database contract coverageType).entries
  | .checkAmount coverageType amount => (Gate.checkAmount database coverageType amount).entries
  | .checkPrice coverageType amount on =>
      (Gate.checkPrice database coverageType amount on).entries
  | .runLookups request on => (Gate.runLookups database request on).entries
  | .checkRules request => (Gate.checkRules database request).entries
  | .explainRules request => (Gate.explainRules database request).entries
  | .probe name => (Gate.probe database name).entries

def failedAccesses {α : Type} : Except Failure α → Nat
  | .error (.dataAccess _ _) => 1
  | _ => 0

def FailureLogged (database : Database) (call : Call) : Prop :=
  countLevel .error (call.entries database) = failedAccesses (call.perform database).2

instance (database : Database) (call : Call) : Decidable (FailureLogged database call) :=
  inferInstanceAs (Decidable (countLevel _ _ = failedAccesses _))

theorem ignoredAgesAt_error (rules : List DatedRule) : ignoredAgesAt .error rules = 0 :=
  if_neg (by decide)

theorem Logs.errors {α : Type} {rules : List DatedRule} {check : Check α}
    (logs : Logs .error (ignoredAgesAt .error rules) check) : Logs .error 0 check :=
  ignoredAgesAt_error rules ▸ logs

theorem failureEvents_map {α β : Type} (level : Level) (outcome : Except Failure α) (wrap : α → β) :
    failureEvents level (outcome.map wrap) = failureEvents level outcome := by
  cases outcome <;> rfl

/-- What a call logs is what its check logs, however its result is wrapped as an answer. -/
theorem Logs.answer {α : Type} {check : Check α} (logs : Logs .error 0 check) (wrap : α → Answer) :
    countLevel .error check.entries = failureEvents .error (check.outcome.map wrap) := by
  rw [failureEvents_map, logs, Nat.zero_add]

theorem logs_probeEach {level : Level} (grave : IsGrave level) (statuses : List TableStatus) :
    Logs level 0 (probeEach statuses) := by
  induction statuses with
  | nil => exact logs_pure level ()
  | cons status rest ih => exact ih.after_emit grave.ne_debug

theorem logs_probe {level : Level} (grave : IsGrave level) (database : Database) (name : String) :
    Logs level 0 (probe database name) := by
  refine (logs_answered level .probingSchema (probeTables database)).bind fun tables _ => ?_
  exact (logs_probeEach grave tables).bind fun _ _ => logs_pure level _

theorem errors_of_call (database : Database) (call : Call) :
    countLevel .error (call.entries database) =
      failureEvents .error (call.perform database).2 := by
  have grave : IsGrave .error := Or.inr rfl
  cases call with
  | validate request on => exact (logs_validate grave database request on).errors.answer _
  | create request on => exact (logs_createCoverage grave database request on).errors.answer _
  | insert request => exact (logs_insertCoverage grave database request).answer _
  | checkContract contract => exact (logs_checkContract grave database contract).answer _
  | checkCoverageType coverageType =>
      exact (logs_checkCoverageType grave database coverageType).answer _
  | checkProduct contract coverageType =>
      exact (logs_checkProduct grave database contract coverageType).answer _
  | checkAmount coverageType amount =>
      exact (logs_checkAmount grave database coverageType amount).answer _
  | checkPrice coverageType amount on =>
      exact (logs_checkPrice grave database coverageType amount on).answer _
  | runLookups request on => exact (logs_runLookups grave database request on).answer _
  | checkRules request => exact (logs_checkRules grave database request).errors.answer _
  | explainRules request => exact (logs_explainRules .error database request).errors.answer _
  | probe name => exact (logs_probe grave database name).answer _

/-- The text of a rule is the one cause of a failure that is not logged. -/
theorem failureEvents_eq_failedAccesses_iff {α : Type} {outcome : Except Failure α} :
    failureEvents .error outcome = failedAccesses outcome ↔
      ∀ operation fault, outcome ≠ .error (.dataAccess operation (.ruleText fault)) := by
  cases outcome with
  | ok value => simp [failureEvents, failedAccesses]
  | error failure =>
      cases failure with
      | dataAccess operation cause =>
          cases cause <;> simp [failureEvents, failedAccesses, Failure.loggedAt?]
      | _ => simp [failureEvents, failedAccesses, Failure.loggedAt?]

theorem failureLogged_iff {database : Database} {call : Call} :
    FailureLogged database call ↔
      ∀ operation fault,
        (call.perform database).2 ≠ .error (.dataAccess operation (.ruleText fault)) := by
  unfold FailureLogged
  rw [errors_of_call]
  exact failureEvents_eq_failedAccesses_iff

def portfolioOfMalformedRule : Database :=
  Sample.singleContract 1 [[.integer 7, .integer 1, .text ">=1.2.3", .null]]

theorem not_failureLogged_of_malformed_rule :
    ¬FailureLogged portfolioOfMalformedRule (.validate Sample.request Sample.day) := by
  decide +kernel

end Underwriting.Gate
