import Underwriting.Gate.Admission
import Underwriting.Gate.Doctor
import Underwriting.Proofs.Rule.EvaluatedRule

/-!
Outcomes of the gate's steps without their traces. A lookup passes, rejects or reports the store's
fault by the answer to its question alone, and a check of rejection rules has the failure of the
first rule that fails.
-/

namespace Underwriting.Gate

open Store

def outcomeOf : Option Failure → Except Failure Unit
  | some failure => .error failure
  | none => .ok ()

theorem outcomeOf_eq_ok_iff {failure : Option Failure} : outcomeOf failure = .ok () ↔ failure = none := by
  cases failure <;> simp [outcomeOf]

@[simp] theorem outcome_answered_ok {α : Type} (operation : Operation) (value : α) :
    (answered operation (.ok value)).outcome = .ok value := rfl

@[simp] theorem outcome_answered_error {α : Type} (operation : Operation) (fault : Fault) :
    (answered operation (.error fault : Except Fault α)).outcome =
      .error (.dataAccess operation (.store fault)) := rfl

theorem outcome_bind_eq_ok_iff {first next : Check Unit} :
    (first >>= fun _ => next).outcome = .ok () ↔ first.outcome = .ok () ∧ next.outcome = .ok () := by
  rw [Traced.outcome_bind]
  cases first.outcome with
  | error failure => simp [Except.bind]
  | ok value => simp [Except.bind]

def decided (operation : Operation) (failure : Failure) : Except Fault Bool → Except Failure Unit
  | .error fault => .error (.dataAccess operation (.store fault))
  | .ok found => outcomeOf (if found then none else some failure)

theorem outcome_require (operation : Operation) (asking refusing : Event)
    (answer : Except Fault Bool) (failure : Failure) :
    (require operation asking answer refusing failure).outcome =
      decided operation failure answer := by
  cases answer with
  | error fault => rfl
  | ok found => cases found <;> rfl

theorem decided_ok_iff {operation : Operation} {failure : Failure} {answer : Except Fault Bool} :
    decided operation failure answer = .ok () ↔ answer = .ok true := by
  cases answer with
  | error fault => simp [decided]
  | ok found => cases found <;> simp [decided, outcomeOf]

theorem outcome_require_of_ok {answer : Except Fault Bool} {found : Bool}
    (answeredSo : answer = .ok found) (operation : Operation) (asking refusing : Event)
    (failure : Failure) :
    (require operation asking answer refusing failure).outcome =
      outcomeOf (if found then none else some failure) := by
  subst answeredSo
  cases found <;> rfl

def DatedRule.failure? (request : Request) (dated : DatedRule) : Option Failure :=
  match AmountRule.ofText dated.rule.amountText with
  | .error fault => some (.dataAccess .checkingRules (.ruleText fault))
  | .ok amountRule =>
      if dated.rule.matchesAge dated.customerAge || amountRule.isSatisfiedBy request.amount then
        some (.ruleViolation request.coverageType dated.rule.sequence)
      else none

def storedFailure? (request : Request) (stored : StoredRule) : Option Failure :=
  match decode stored with
  | .error fault => some (.dataAccess .checkingRules (.store fault))
  | .ok dated => dated.failure? request

theorem outcome_checkRule (request : Request) (stored : StoredRule) :
    (checkRule request stored).outcome = outcomeOf (storedFailure? request stored) := by
  unfold checkRule storedFailure?
  rw [Traced.outcome_bind]
  cases decode stored with
  | error fault => rfl
  | ok dated =>
      simp only [outcome_answered_ok, Except.bind, DatedRule.failure?]
      rw [Traced.outcome_bind]
      cases read : AmountRule.ofText dated.rule.amountText with
      | error fault =>
          have failed :=
            RejectionRule.outcome_evaluate_of_error read dated.customerAge request.amount
          simp [evaluated, failed, Except.bind, outcomeOf]
      | ok amountRule =>
          obtain ⟨evaluation, evaluates, sequence, violated⟩ :=
            RejectionRule.outcome_evaluate_of_ok read dated.customerAge request.amount
          simp only [evaluated, evaluates, Except.bind, Traced.outcome_bind, Traced.outcome_emit]
          rw [violated, sequence]
          split <;> rfl

theorem outcome_checkEach (request : Request) (rules : List StoredRule) :
    (checkEach request rules).outcome = outcomeOf (rules.findSome? (storedFailure? request)) := by
  induction rules with
  | nil => rfl
  | cons stored rest ih =>
      simp only [checkEach, Traced.outcome_bind, outcome_checkRule, List.findSome?_cons]
      cases storedFailure? request stored with
      | some failure => rfl
      | none => simpa [outcomeOf, Except.bind] using ih

theorem outcome_checkRules_of_ok {database : Database} {request : Request}
    {rules : List StoredRule}
    (found : Query.rejectionRules database request.coverageType request.contract = .ok rules) :
    (checkRules database request).outcome =
      outcomeOf (rules.findSome? (storedFailure? request)) := by
  unfold checkRules storedRules
  simp only [Traced.outcome_bind, Traced.outcome_emit, found, outcome_answered_ok, Except.bind,
    outcome_checkEach]
  cases rules.findSome? (storedFailure? request) <;> rfl

theorem checkRules_ok {database : Database} {request : Request}
    (passed : (checkRules database request).outcome = .ok ()) :
    ∃ rules, Query.rejectionRules database request.coverageType request.contract = .ok rules ∧
      ∀ stored ∈ rules, storedFailure? request stored = none := by
  cases found : Query.rejectionRules database request.coverageType request.contract with
  | error fault =>
      simp [checkRules, storedRules, Traced.outcome_bind, found, Except.bind] at passed
  | ok rules =>
      rw [outcome_checkRules_of_ok found, outcomeOf_eq_ok_iff] at passed
      exact ⟨rules, rfl, List.findSome?_eq_none_iff.mp passed⟩

theorem outcome_runChecks (database : Database) (request : Request) (on : Date) :
    (runChecks database request on).outcome =
      (runLookups database request on).outcome.bind fun _ =>
        (checkRules database request).outcome := by
  unfold runChecks
  rw [Traced.outcome_bind]

theorem runChecks_ok_iff {database : Database} {request : Request} {on : Date} :
    (runChecks database request on).outcome = .ok () ↔
      (runLookups database request on).outcome = .ok () ∧
        (checkRules database request).outcome = .ok () :=
  outcome_bind_eq_ok_iff

theorem outcome_validate (database : Database) (request : Request) (on : Date) :
    (validate database request on).outcome = (runChecks database request on).outcome := rfl

theorem createCoverage_of_checks {database : Database} {request : Request} {on : Date}
    (passed : (runChecks database request on).outcome = .ok ()) :
    (createCoverage database request on).database = (insertCoverage database request).database ∧
      (createCoverage database request on).result.outcome =
        (insertCoverage database request).result.outcome := by
  unfold createCoverage
  simp [Traced.outcome_bind, Except.bind, passed]

theorem createCoverage_of_failure {database : Database} {request : Request} {on : Date}
    {failure : Failure} (failed : (runChecks database request on).outcome = .error failure) :
    (createCoverage database request on).database = database ∧
      (createCoverage database request on).result.outcome = .error failure := by
  unfold createCoverage
  simp [Traced.outcome_bind, Except.bind, failed]

theorem outcome_createCoverage (database : Database) (request : Request) (on : Date) :
    (createCoverage database request on).result.outcome =
      (validate database request on).outcome.bind fun _ =>
        (insertCoverage database request).result.outcome := by
  rw [outcome_validate]
  cases checked : (runChecks database request on).outcome with
  | error failure => exact (createCoverage_of_failure checked).2
  | ok value => exact (createCoverage_of_checks checked).2

theorem insertedRows_cases (request : Request) (affected : Nat) :
    (insertedRows request affected).outcome = .ok (.ofRequest request) ∨
      (insertedRows request affected).outcome =
        .error (.dataAccess .insertingCoverage (.rowCount affected)) := by
  unfold insertedRows
  split
  · exact Or.inl rfl
  · exact Or.inr rfl

/-- An insertion fails as itself alone. -/
theorem outcome_insertCoverage_cases (database : Database) (request : Request) :
    (insertCoverage database request).result.outcome = .ok (.ofRequest request) ∨
      ∃ cause, (insertCoverage database request).result.outcome =
        .error (.dataAccess .insertingCoverage cause) := by
  unfold insertCoverage
  split
  · exact Or.inr ⟨_, rfl⟩
  · rcases insertedRows_cases request _ with inserted | failed
    · exact Or.inl inserted
    · exact Or.inr ⟨_, failed⟩

theorem outcome_probeEach (statuses : List TableStatus) :
    (probeEach statuses).outcome = .ok () := by
  induction statuses with
  | nil => rfl
  | cons status rest ih =>
      simp only [probeEach, Traced.outcome_bind, Traced.outcome_emit, Except.bind, ih]

theorem outcome_probe (database : Database) (name : String) :
    (probe database name).outcome =
      (answered .probingSchema (probeTables database)).outcome.map fun tables => ⟨name, tables⟩ := by
  unfold probe
  rw [Traced.outcome_bind]
  cases (answered .probingSchema (probeTables database)).outcome with
  | error failure => rfl
  | ok tables =>
      simp only [Except.bind, Except.map, Traced.outcome_bind, outcome_probeEach]
      rfl

theorem probe_ok_iff {database : Database} {name : String} {report : DoctorReport} :
    (probe database name).outcome = .ok report ↔
      database.access ≠ .unreadable ∧
        report = ⟨name, requiredTables.map (tableStatus database true) ++
          optionalTables.map (tableStatus database false)⟩ := by
  rw [outcome_probe, probeTables]
  split
  · next unreadable => simp [unreadable, Except.map]
  · next readable => simp [readable, Except.map, eq_comm]

theorem missingTables_eq {database : Database} {name : String} {report : DoctorReport}
    (probed : (probe database name).outcome = .ok report) :
    report.missingTables = requiredTables.filter fun table => (database.table? table).isNone := by
  obtain ⟨_, rfl⟩ := probe_ok_iff.mp probed
  simp [DoctorReport.missingTables, List.filter_map, Function.comp_def, TableStatus.present,
    tableStatus]

end Underwriting.Gate
