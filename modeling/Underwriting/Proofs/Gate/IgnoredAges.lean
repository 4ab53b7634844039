import Underwriting.Proofs.Gate.Explanation
import Underwriting.Proofs.Gate.Logging
import Underwriting.Proofs.Store.SortedRules

/-!
An age condition that cannot be read is never passed over in silence. The warnings of a validation or
a creation are one for each evaluated rule of such a condition and one for a rejection, and those of a
report are one for each such rule that it evaluates. Which rules are evaluated is told from the stored
rows alone: a check stops at the first that fails the request, a report at the first whose amount
condition cannot be read, and it evaluates none if some row cannot be decoded.
-/

namespace Underwriting.Gate

open Store

def throughFirst {α : Type} (property : α → Bool) (elements : List α) : List α :=
  elements.take (elements.findIdx property + 1)

def decodedFront (found : List StoredRule) : List DatedRule :=
  (found.takeWhile fun stored => (decode stored).isOk).filterMap fun stored =>
    (decode stored).toOption

/-- The rules that a check evaluates: up to the first that is violated or whose amount condition
cannot be read. -/
def evaluatedRules (request : Request) (found : List StoredRule) : List DatedRule :=
  throughFirst (fun dated => (dated.failure? request).isSome) (decodedFront found)

def DatedRule.isMalformed (dated : DatedRule) : Bool := !(AmountRule.ofText dated.rule.amountText).isOk

def explainedRules (found : List StoredRule) : List DatedRule :=
  if found.all fun stored => (decode stored).isOk then
    throughFirst DatedRule.isMalformed (decodedFront found)
  else []

def foundRules (database : Database) (request : Request) : List StoredRule :=
  (Query.rejectionRules database request.coverageType request.contract).toOption.getD []

def reachedRules (database : Database) (request : Request) (on : Date) : List StoredRule :=
  if (runLookups database request on).outcome.isOk then foundRules database request else []

def ignoredAges (rules : List DatedRule) : Nat := rules.countP (·.rule.ignoresAge)

def ignoredAgesAt (level : Level) (rules : List DatedRule) : Nat :=
  if level = .warn then ignoredAges rules else 0

def rejections {α : Type} : Except Failure α → Nat
  | .ok _ => 0
  | .error failure => if failure.isRejection then 1 else 0

theorem throughFirst_cons_of_holds {α : Type} {property : α → Bool} {element : α} {rest : List α}
    (holds : property element = true) : throughFirst property (element :: rest) = [element] := by
  simp [throughFirst, List.findIdx_cons, holds]

theorem throughFirst_cons_of_not {α : Type} {property : α → Bool} {element : α} {rest : List α}
    (not : property element = false) :
    throughFirst property (element :: rest) = element :: throughFirst property rest := by
  simp [throughFirst, List.findIdx_cons, not]

example : throughFirst (fun number : Nat => number == 2) [1, 2, 3, 2] = [1, 2] := by decide

theorem decodedFront_cons_of_error {stored : StoredRule} {rest : List StoredRule} {fault : Fault}
    (undecoded : decode stored = .error fault) : decodedFront (stored :: rest) = [] := by
  simp [decodedFront, undecoded, Except.isOk, Except.toBool]

theorem decodedFront_cons_of_ok {stored : StoredRule} {rest : List StoredRule} {dated : DatedRule}
    (decoded : decode stored = .ok dated) :
    decodedFront (stored :: rest) = dated :: decodedFront rest := by
  simp [decodedFront, decoded, Except.isOk, Except.toBool, Except.toOption]

theorem ignoredAgesAt_nil (level : Level) : ignoredAgesAt level [] = 0 := by
  simp [ignoredAgesAt, ignoredAges]

/-- A check that comes to no rule passes over no age condition. -/
theorem Logs.of_no_rules {α : Type} {level : Level} {check : Check α} (logs : Logs level 0 check) :
    Logs level (ignoredAgesAt level []) check := by
  rwa [ignoredAgesAt_nil]

theorem ignoredAgesAt_cons (level : Level) (dated : DatedRule) (rest : List DatedRule) :
    ignoredAgesAt level (dated :: rest) = ignoredAgesAt level [dated] + ignoredAgesAt level rest := by
  by_cases warns : level = .warn
  · simp only [ignoredAgesAt, ignoredAges, if_pos warns, List.countP_cons, List.countP_nil]
    omega
  · simp only [ignoredAgesAt, if_neg warns]

theorem ignoredAgesAt_singleton (level : Level) (dated : DatedRule) :
    ignoredAgesAt level [dated] = if level = .warn ∧ dated.rule.ignoresAge then 1 else 0 := by
  by_cases warns : level = .warn
  · simp [ignoredAgesAt, ignoredAges, warns, List.countP_cons]
  · simp [ignoredAgesAt, warns]

theorem entries_evaluated (dated : DatedRule) (amount : Decimal) :
    (evaluated dated amount).entries = dated.rule.readAge.entries := by
  rw [← RejectionRule.entries_evaluate dated.rule dated.customerAge amount]
  cases evaluates : (dated.rule.evaluate dated.customerAge amount).outcome with
  | ok evaluation => simp [evaluated, evaluates]
  | error fault => simp [evaluated, evaluates]

theorem failureEvents_evaluated (level : Level) (dated : DatedRule) (amount : Decimal) :
    failureEvents level (evaluated dated amount).outcome = 0 := by
  cases evaluates : (dated.rule.evaluate dated.customerAge amount).outcome with
  | ok evaluation => simp [evaluated, evaluates, failureEvents]
  | error fault => simp [evaluated, evaluates, failureEvents, Failure.loggedAt?]

theorem logs_evaluated (level : Level) (dated : DatedRule) (amount : Decimal) :
    Logs level (ignoredAgesAt level [dated]) (evaluated dated amount) := by
  unfold Logs
  rw [entries_evaluated, failureEvents_evaluated, RejectionRule.countLevel_readAge,
    ignoredAgesAt_singleton, Nat.add_zero]

theorem logs_checkRule_of_error {stored : StoredRule} {fault : Fault}
    (undecoded : decode stored = .error fault) (level : Level) (request : Request) :
    Logs level 0 (checkRule request stored) := by
  have asked := logs_answered level .checkingRules (decode stored)
  unfold checkRule
  rw [undecoded] at asked ⊢
  exact asked.bind_of_error (outcome_answered_error .checkingRules fault)

section Checks

variable {level : Level} (grave : IsGrave level)
include grave

theorem logs_checkRule_of_ok {stored : StoredRule} {dated : DatedRule}
    (decoded : decode stored = .ok dated) (request : Request) :
    Logs level (ignoredAgesAt level [dated]) (checkRule request stored) := by
  unfold checkRule
  rw [decoded]
  change Logs level _ (evaluated dated request.amount >>= _)
  refine (logs_evaluated level dated request.amount).bind fun evaluation _ => ?_
  refine Logs.after_emit ?_ grave.ne_debug
  by_cases violated : evaluation.isViolated
  · rw [if_pos violated]
    exact logs_reported rfl level
  · rw [if_neg violated]
    exact logs_pure level ()

/-- The induction is on the rows: each adds the warning of its own age condition, and the rows behind
the first that fails add none. -/
theorem logs_checkEach (request : Request) (found : List StoredRule) :
    Logs level (ignoredAgesAt level (evaluatedRules request found)) (checkEach request found) := by
  induction found with
  | nil => exact (logs_pure level ()).of_no_rules
  | cons stored rest ih =>
      have outcome := outcome_checkRule request stored
      cases decoded : decode stored with
      | error fault =>
          have first := logs_checkRule_of_error decoded level request
          simp only [storedFailure?, decoded] at outcome
          rw [evaluatedRules, decodedFront_cons_of_error decoded]
          exact (first.bind_of_error outcome).of_no_rules
      | ok dated =>
          have first := logs_checkRule_of_ok grave decoded request
          simp only [storedFailure?, decoded] at outcome
          rw [evaluatedRules, decodedFront_cons_of_ok decoded]
          cases fails : dated.failure? request with
          | some failure =>
              rw [throughFirst_cons_of_holds (by simp [fails])]
              rw [fails] at outcome
              exact first.bind_of_error outcome
          | none =>
              rw [throughFirst_cons_of_not (by simp [fails]), ignoredAgesAt_cons]
              rw [fails] at outcome
              exact first.bind_of_ok outcome ih

theorem logs_checkRules (database : Database) (request : Request) :
    Logs level (ignoredAgesAt level (evaluatedRules request (foundRules database request)))
      (checkRules database request) := by
  refine Logs.after_emit ?_ grave.ne_debug
  have asked := logs_answered level .checkingRules
    (Query.rejectionRules database request.coverageType request.contract)
  unfold foundRules storedRules
  cases found : Query.rejectionRules database request.coverageType request.contract with
  | error fault =>
      rw [found] at asked
      exact (asked.bind_of_error rfl).of_no_rules
  | ok rules =>
      change Logs level _ (checkEach request rules >>= _)
      exact (logs_checkEach grave request rules).bind fun _ _ => logs_emit grave.ne_debug

theorem logs_runChecks (database : Database) (request : Request) (on : Date) :
    Logs level (ignoredAgesAt level (evaluatedRules request (reachedRules database request on)))
      (runChecks database request on) := by
  have looked := logs_runLookups grave database request on
  unfold reachedRules
  cases ends : (runLookups database request on).outcome with
  | error failure => exact (looked.bind_of_error ends).of_no_rules
  | ok value =>
      rw [← Nat.zero_add (ignoredAgesAt level _)]
      exact looked.bind_of_ok ends (logs_checkRules grave database request)

theorem logs_validate (database : Database) (request : Request) (on : Date) :
    Logs level (ignoredAgesAt level (evaluatedRules request (reachedRules database request on)))
      (validate database request on) :=
  (logs_runChecks grave database request on).within (requestSpan "validate_coverage" request)

theorem logs_insertedRows (request : Request) (affected : Nat) :
    Logs level 0 (insertedRows request affected) := by
  unfold insertedRows
  by_cases single : affected = 1
  · rw [if_pos single]
    exact (logs_pure level _).after_emit grave.ne_info
  · rw [if_neg single]
    exact logs_reported rfl level

theorem logs_insertCoverage (database : Database) (request : Request) :
    Logs level 0 (insertCoverage database request).result := by
  unfold insertCoverage
  cases database.insert "Deckung" (coverageRow request) with
  | error fault => exact logs_answered level .insertingCoverage (.error fault)
  | ok result => exact logs_insertedRows grave request result.2

theorem logs_createCoverage (database : Database) (request : Request) (on : Date) :
    Logs level (ignoredAgesAt level (evaluatedRules request (reachedRules database request on)))
      (createCoverage database request on).result := by
  have checked := logs_runChecks grave database request on
  simp only [createCoverage]
  split
  · rename_i failure failed
    exact ((checked.after_emit grave.ne_info).of_failed failed).within _
  · refine Logs.within _ ?_
    exact (checked.after_emit grave.ne_info).bind fun _ _ => logs_insertCoverage grave database request

end Checks

theorem isMalformed_of_error {dated : DatedRule} {fault : RuleFault}
    (unread : AmountRule.ofText dated.rule.amountText = .error fault) : dated.isMalformed = true := by
  simp [DatedRule.isMalformed, unread, Except.isOk, Except.toBool]

theorem isMalformed_of_ok {dated : DatedRule} {amountRule : AmountRule}
    (read : AmountRule.ofText dated.rule.amountText = .ok amountRule) : dated.isMalformed = false := by
  simp [DatedRule.isMalformed, read, Except.isOk, Except.toBool]

theorem logs_evaluateEach (level : Level) (amount : Decimal) (rules : List DatedRule) :
    Logs level (ignoredAgesAt level (throughFirst DatedRule.isMalformed rules))
      (evaluateEach amount rules) := by
  induction rules with
  | nil => exact (logs_pure level []).of_no_rules
  | cons dated rest ih =>
      have first := logs_evaluated level dated amount
      cases read : AmountRule.ofText dated.rule.amountText with
      | error fault =>
          rw [throughFirst_cons_of_holds (isMalformed_of_error read)]
          exact first.bind_of_error (outcome_evaluated_of_unread read amount)
      | ok amountRule =>
          obtain ⟨evaluation, evaluates, _⟩ := outcome_evaluated_of_read read amount
          rw [throughFirst_cons_of_not (isMalformed_of_ok read), ignoredAgesAt_cons]
          exact first.bind_of_ok evaluates (ih.bind fun _ _ => logs_pure level _)

theorem decodedFront_of_decodeAll {found : List StoredRule} {rules : List DatedRule}
    (decoded : decodeAll found = .ok rules) :
    (found.all fun stored => (decode stored).isOk) = true ∧ decodedFront found = rules := by
  have each := decodeAll_ok decoded
  clear decoded
  induction each with
  | nil => exact ⟨rfl, rfl⟩
  | @cons stored dated rest others first _ ih =>
      refine ⟨?_, ?_⟩
      · rw [List.all_cons, first, ih.1]
        rfl
      · rw [decodedFront_cons_of_ok first, ih.2]

theorem explainedRules_of_error {found : List StoredRule} {fault : Fault}
    (failed : decodeAll found = .error fault) : explainedRules found = [] := by
  obtain ⟨stored, member, undecoded⟩ := decodeAll_error failed
  refine if_neg fun all => ?_
  have decoded := List.all_eq_true.mp all stored member
  rw [undecoded] at decoded
  cases decoded

theorem explainedRules_of_ok {found : List StoredRule} {rules : List DatedRule}
    (decoded : decodeAll found = .ok rules) :
    explainedRules found = throughFirst DatedRule.isMalformed rules := by
  obtain ⟨all, same⟩ := decodedFront_of_decodeAll decoded
  rw [explainedRules, if_pos all, same]

theorem logs_explainRules (level : Level) (database : Database) (request : Request) :
    Logs level (ignoredAgesAt level (explainedRules (foundRules database request)))
      (explainRules database request) := by
  have asked := logs_answered level .checkingRules
    ((Query.rejectionRules database request.coverageType request.contract).bind decodeAll)
  unfold foundRules explainRules
  cases found : Query.rejectionRules database request.coverageType request.contract with
  | error fault =>
      rw [found] at asked
      exact (asked.bind_of_error rfl).of_no_rules
  | ok stored =>
      rw [found] at asked
      change Logs level 0 (answered .checkingRules (decodeAll stored)) at asked
      change Logs level (ignoredAgesAt level (explainedRules stored))
        (answered .checkingRules (decodeAll stored) >>= _)
      cases decoded : decodeAll stored with
      | error fault =>
          rw [explainedRules_of_error decoded]
          rw [decoded] at asked
          exact (asked.bind_of_error rfl).of_no_rules
      | ok rules =>
          rw [explainedRules_of_ok decoded]
          change Logs level _ (evaluateEach request.amount rules >>= _)
          exact (logs_evaluateEach level request.amount rules).bind fun _ _ => logs_pure level _

theorem failureEvents_warn {α : Type} (outcome : Except Failure α) :
    failureEvents .warn outcome = rejections outcome := by
  cases outcome with
  | ok value => rfl
  | error failure =>
      cases failure with
      | dataAccess operation cause => cases cause <;> rfl
      | _ => rfl

theorem Logs.warnings {α : Type} {rules : List DatedRule} {check : Check α}
    (logs : Logs .warn (ignoredAgesAt .warn rules) check) :
    countLevel .warn check.entries = ignoredAges rules + rejections check.outcome := by
  rw [← failureEvents_warn]
  exact logs

theorem foundRules_sorted (database : Database) (request : Request) :
    (foundRules database request).Pairwise fun first second => first.key ≤ second.key := by
  unfold foundRules
  cases answer : Query.rejectionRules database request.coverageType request.contract with
  | error fault => exact List.Pairwise.nil
  | ok found => exact (Database.rejectionRules_sorted answer).2

theorem rejections_explainRules (database : Database) (request : Request) :
    rejections (explainRules database request).outcome = 0 := by
  cases explained : (explainRules database request).outcome with
  | ok report => rfl
  | error failure =>
      obtain ⟨cause, rfl, _⟩ := explainRules_error explained
      rfl

/-- Every ignored age condition of an evaluated rule is a warning, and the other warnings are the
rejections. The rules are evaluated in the order of their numbers. -/
theorem ignored_ages_are_logged (database : Database) (request : Request) (on : Date) :
    (foundRules database request).Pairwise (fun first second => first.key ≤ second.key) ∧
      countLevel .warn (validate database request on).entries =
        ignoredAges (evaluatedRules request (reachedRules database request on)) +
          rejections (validate database request on).outcome ∧
      countLevel .warn (createCoverage database request on).result.entries =
        ignoredAges (evaluatedRules request (reachedRules database request on)) +
          rejections (createCoverage database request on).result.outcome ∧
      countLevel .warn (explainRules database request).entries =
        ignoredAges (explainedRules (foundRules database request)) := by
  have grave : IsGrave .warn := Or.inl rfl
  have explained := (logs_explainRules .warn database request).warnings
  rw [rejections_explainRules, Nat.add_zero] at explained
  exact ⟨foundRules_sorted database request, (logs_validate grave database request on).warnings,
    (logs_createCoverage grave database request on).warnings, explained⟩

end Underwriting.Gate
