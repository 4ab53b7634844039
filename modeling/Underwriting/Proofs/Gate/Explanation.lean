import Mathlib.Data.List.Forall2
import Underwriting.Proofs.Gate.Outcome

/-!
The check of the rejection rules against the report on them. The check stops at the first rule that
fails the request; the report decodes all rules before it evaluates any. Both speak of the same
first violation, and the report can only fail where the check does or behind the violation at which
the check has stopped.
-/

namespace Underwriting.Gate

open Store

def unusable? (stored : StoredRule) : Option Cause :=
  match decode stored with
  | .error fault => some (.store fault)
  | .ok dated =>
      match AmountRule.ofText dated.rule.amountText with
      | .error fault => some (.ruleText fault)
      | .ok _ => none

def Evaluates (amount : Decimal) (stored : StoredRule) (evaluation : Evaluation) : Prop :=
  ∃ dated, decode stored = .ok dated ∧ (evaluated dated amount).outcome = .ok evaluation

def violationOf (request : Request) (evaluation : Evaluation) : Failure :=
  .ruleViolation request.coverageType evaluation.sequence

theorem outcome_evaluated_of_unread {dated : DatedRule} {fault : RuleFault}
    (unread : AmountRule.ofText dated.rule.amountText = .error fault) (amount : Decimal) :
    (evaluated dated amount).outcome = .error (.dataAccess .checkingRules (.ruleText fault)) := by
  simp [evaluated, RejectionRule.outcome_evaluate_of_error unread]

theorem outcome_evaluated_of_read {dated : DatedRule} {amountRule : AmountRule}
    (read : AmountRule.ofText dated.rule.amountText = .ok amountRule) (amount : Decimal) :
    ∃ evaluation, (evaluated dated amount).outcome = .ok evaluation ∧
      evaluation.sequence = dated.rule.sequence ∧
      evaluation.isViolated =
        (dated.rule.matchesAge dated.customerAge || amountRule.isSatisfiedBy amount) := by
  obtain ⟨evaluation, evaluates, sequence, violated⟩ :=
    RejectionRule.outcome_evaluate_of_ok read dated.customerAge amount
  exact ⟨evaluation, by simp [evaluated, evaluates], sequence, violated⟩

theorem storedFailure?_of_unusable {stored : StoredRule} {cause : Cause}
    (unusable : unusable? stored = some cause) (request : Request) :
    storedFailure? request stored = some (.dataAccess .checkingRules cause) := by
  unfold unusable? at unusable
  unfold storedFailure?
  cases decoded : decode stored with
  | error fault => simpa [decoded] using unusable
  | ok dated =>
      cases read : AmountRule.ofText dated.rule.amountText with
      | error fault => simpa [decoded, read, DatedRule.failure?] using unusable
      | ok amountRule => simp [decoded, read] at unusable

theorem storedFailure?_of_evaluates {stored : StoredRule} {evaluation : Evaluation}
    {request : Request} (evaluates : Evaluates request.amount stored evaluation) :
    storedFailure? request stored =
      if evaluation.isViolated then some (violationOf request evaluation) else none := by
  obtain ⟨dated, decoded, outcome⟩ := evaluates
  simp only [storedFailure?, decoded, DatedRule.failure?]
  cases read : AmountRule.ofText dated.rule.amountText with
  | error fault => simp [outcome_evaluated_of_unread read] at outcome
  | ok amountRule =>
      obtain ⟨other, otherOutcome, sequence, violated⟩ :=
        outcome_evaluated_of_read read request.amount
      rw [outcome] at otherOutcome
      cases otherOutcome
      simp only [violated, violationOf, sequence]

theorem decodeAll_ok {found : List StoredRule} {rules : List DatedRule}
    (decoded : decodeAll found = .ok rules) :
    List.Forall₂ (fun stored dated => decode stored = .ok dated) found rules := by
  induction found generalizing rules with
  | nil =>
      cases decoded
      exact List.Forall₂.nil
  | cons stored rest ih =>
      cases first : decode stored with
      | error fault => simp [decodeAll, first, bind, Except.bind] at decoded
      | ok dated =>
          cases others : decodeAll rest with
          | error fault => simp [decodeAll, first, others, bind, Except.bind] at decoded
          | ok datedRest =>
              simp only [decodeAll, first, others, bind, Except.bind, pure, Except.pure,
                Except.ok.injEq] at decoded
              subst decoded
              exact List.Forall₂.cons first (ih others)

theorem decodeAll_error {found : List StoredRule} {fault : Fault}
    (failed : decodeAll found = .error fault) :
    ∃ stored ∈ found, decode stored = .error fault := by
  induction found with
  | nil => cases failed
  | cons stored rest ih =>
      cases first : decode stored with
      | error other =>
          simp only [decodeAll, first, bind, Except.bind, Except.error.injEq] at failed
          subst failed
          exact ⟨stored, by simp, first⟩
      | ok dated =>
          cases others : decodeAll rest with
          | error other =>
              simp only [decodeAll, first, others, bind, Except.bind, Except.error.injEq] at failed
              subst failed
              obtain ⟨bad, member, badFails⟩ := ih others
              exact ⟨bad, List.mem_cons_of_mem stored member, badFails⟩
          | ok datedRest =>
              simp [decodeAll, first, others, bind, Except.bind, pure, Except.pure] at failed

theorem unusable?_of_unevaluated {stored : StoredRule} {dated : DatedRule} {amount : Decimal}
    {failure : Failure} (decoded : decode stored = .ok dated)
    (outcome : (evaluated dated amount).outcome = .error failure) :
    ∃ cause, failure = .dataAccess .checkingRules cause ∧ unusable? stored = some cause := by
  cases read : AmountRule.ofText dated.rule.amountText with
  | error fault =>
      rw [outcome_evaluated_of_unread read] at outcome
      cases outcome
      exact ⟨.ruleText fault, rfl, by simp [unusable?, decoded, read]⟩
  | ok amountRule =>
      obtain ⟨evaluation, evaluates, _⟩ := outcome_evaluated_of_read read amount
      simp [evaluates] at outcome

theorem outcome_evaluateEach_cons (amount : Decimal) (dated : DatedRule) (rest : List DatedRule) :
    (evaluateEach amount (dated :: rest)).outcome =
      (evaluated dated amount).outcome.bind fun evaluation =>
        (evaluateEach amount rest).outcome.map (evaluation :: ·) := by
  simp only [evaluateEach, Traced.outcome_bind, Traced.outcome_pure]
  cases (evaluateEach amount rest).outcome <;> rfl

theorem evaluateEach_ok {amount : Decimal} {found : List StoredRule} {rules : List DatedRule}
    (decodes : List.Forall₂ (fun stored dated => decode stored = .ok dated) found rules)
    {evaluations : List Evaluation}
    (outcome : (evaluateEach amount rules).outcome = .ok evaluations) :
    List.Forall₂ (Evaluates amount) found evaluations := by
  induction decodes generalizing evaluations with
  | nil =>
      cases outcome
      exact List.Forall₂.nil
  | @cons stored dated _ rest decoded _ ih =>
      rw [outcome_evaluateEach_cons] at outcome
      cases first : (evaluated dated amount).outcome with
      | error failure => simp [first, Except.bind] at outcome
      | ok evaluation =>
          cases others : (evaluateEach amount rest).outcome with
          | error failure => simp [first, others, Except.bind, Except.map] at outcome
          | ok evaluatedRest =>
              simp only [first, others, Except.bind, Except.map, Except.ok.injEq] at outcome
              subst outcome
              exact List.Forall₂.cons ⟨dated, decoded, first⟩ (ih others)

theorem evaluateEach_error {amount : Decimal} {found : List StoredRule} {rules : List DatedRule}
    (decodes : List.Forall₂ (fun stored dated => decode stored = .ok dated) found rules)
    {failure : Failure} (outcome : (evaluateEach amount rules).outcome = .error failure) :
    ∃ cause, failure = .dataAccess .checkingRules cause ∧
      ∃ stored ∈ found, unusable? stored = some cause := by
  induction decodes with
  | nil => cases outcome
  | @cons stored dated _ rest decoded _ ih =>
      rw [outcome_evaluateEach_cons] at outcome
      cases first : (evaluated dated amount).outcome with
      | error other =>
          simp only [first, Except.bind, Except.error.injEq] at outcome
          subst outcome
          obtain ⟨cause, same, unusable⟩ := unusable?_of_unevaluated decoded first
          exact ⟨cause, same, stored, by simp, unusable⟩
      | ok evaluation =>
          cases others : (evaluateEach amount rest).outcome with
          | error other =>
              simp only [first, others, Except.bind, Except.map, Except.error.injEq] at outcome
              subst outcome
              obtain ⟨cause, same, bad, member, unusable⟩ := ih others
              exact ⟨cause, same, bad, List.mem_cons_of_mem stored member, unusable⟩
          | ok evaluatedRest => simp [first, others, Except.bind, Except.map] at outcome

theorem outcome_explainRules (database : Database) (request : Request) :
    (explainRules database request).outcome =
      (answered .checkingRules
        ((Query.rejectionRules database request.coverageType request.contract).bind
          decodeAll)).outcome.bind fun rules =>
        (evaluateEach request.amount rules).outcome.map fun evaluations =>
          ⟨request.coverageType, rules.head?.map (·.customerAge), evaluations⟩ := by
  rw [explainRules, Traced.outcome_bind]
  congr 1
  funext rules
  rw [Traced.outcome_bind]
  cases (evaluateEach request.amount rules).outcome <;> rfl

theorem explainRules_ok {database : Database} {request : Request} {report : RuleReport}
    (explained : (explainRules database request).outcome = .ok report) :
    ∃ found,
      Query.rejectionRules database request.coverageType request.contract = .ok found ∧
        List.Forall₂ (Evaluates request.amount) found report.evaluations := by
  rw [outcome_explainRules] at explained
  cases answer : Query.rejectionRules database request.coverageType request.contract with
  | error fault => simp [answer, Except.bind] at explained
  | ok found =>
      cases decoded : decodeAll found with
      | error fault => simp [answer, decoded, Except.bind] at explained
      | ok rules =>
          cases outcome : (evaluateEach request.amount rules).outcome with
          | error failure =>
              simp [answer, decoded, outcome, Except.bind, Except.map] at explained
          | ok evaluations =>
              simp only [answer, decoded, outcome, Except.bind, Except.map, outcome_answered_ok,
                Except.ok.injEq] at explained
              subst explained
              exact ⟨found, rfl, evaluateEach_ok (decodeAll_ok decoded) outcome⟩

theorem explainRules_error {database : Database} {request : Request} {failure : Failure}
    (failed : (explainRules database request).outcome = .error failure) :
    ∃ cause, failure = .dataAccess .checkingRules cause ∧
      ((∃ fault,
          Query.rejectionRules database request.coverageType request.contract = .error fault) ∨
        ∃ found,
          Query.rejectionRules database request.coverageType request.contract = .ok found ∧
            ∃ stored ∈ found, unusable? stored = some cause) := by
  rw [outcome_explainRules] at failed
  cases answer : Query.rejectionRules database request.coverageType request.contract with
  | error fault =>
      simp only [answer, Except.bind, outcome_answered_error, Except.error.injEq] at failed
      exact ⟨.store fault, failed.symm, Or.inl ⟨fault, rfl⟩⟩
  | ok found =>
      cases decoded : decodeAll found with
      | error fault =>
          simp only [answer, decoded, Except.bind, outcome_answered_error,
            Except.error.injEq] at failed
          obtain ⟨stored, member, undecoded⟩ := decodeAll_error decoded
          exact ⟨.store fault, failed.symm,
            Or.inr ⟨found, rfl, stored, member, by simp [unusable?, undecoded]⟩⟩
      | ok rules =>
          cases outcome : (evaluateEach request.amount rules).outcome with
          | ok evaluations =>
              simp [answer, decoded, outcome, Except.bind, Except.map] at failed
          | error other =>
              simp only [answer, decoded, outcome, Except.bind, Except.map, outcome_answered_ok,
                Except.error.injEq] at failed
              subst failed
              obtain ⟨cause, same, stored, member, unusable⟩ :=
                evaluateEach_error (decodeAll_ok decoded) outcome
              exact ⟨cause, same, Or.inr ⟨found, rfl, stored, member, unusable⟩⟩

theorem findSome?_of_evaluates {request : Request} {found : List StoredRule}
    {evaluations : List Evaluation}
    (evaluates : List.Forall₂ (Evaluates request.amount) found evaluations) :
    found.findSome? (storedFailure? request) =
      (evaluations.find? (·.isViolated)).map (violationOf request) := by
  induction evaluates with
  | nil => rfl
  | @cons stored evaluation _ _ first _ ih =>
      simp only [List.findSome?_cons, List.find?_cons, storedFailure?_of_evaluates first]
      cases evaluation.isViolated with
      | true => rfl
      | false => simpa using ih

/-- Where a report is made, the check has the outcome of its first violation. -/
theorem outcome_checkRules_of_explained {database : Database} {request : Request}
    {report : RuleReport} (explained : (explainRules database request).outcome = .ok report) :
    (checkRules database request).outcome =
      outcomeOf (report.firstViolation.map (violationOf request)) := by
  obtain ⟨found, answer, evaluates⟩ := explainRules_ok explained
  rw [outcome_checkRules_of_ok answer, findSome?_of_evaluates evaluates]
  rfl

theorem checkRules_failed_of_unexplained {database : Database} {request : Request}
    {failure : Failure} (failed : (explainRules database request).outcome = .error failure) :
    (checkRules database request).outcome ≠ .ok () := by
  intro passed
  obtain ⟨found, answer, passes⟩ := checkRules_ok passed
  obtain ⟨cause, _, ⟨fault, unanswered⟩ | ⟨others, otherAnswer, stored, member, unusable⟩⟩ :=
    explainRules_error failed
  · rw [answer] at unanswered
    cases unanswered
  · rw [answer] at otherAnswer
    cases otherAnswer
    have fails := storedFailure?_of_unusable unusable request
    rw [passes stored member] at fails
    cases fails

/-- The rules of a request up to a violated one that no rule in front of it forestalls. -/
structure StopsAt (database : Database) (request : Request) (front : List StoredRule)
    (violated : StoredRule) (back : List StoredRule) (failure : Failure) : Prop where
  found : Query.rejectionRules database request.coverageType request.contract =
    .ok (front ++ violated :: back)
  passed : ∀ stored ∈ front, storedFailure? request stored = none
  failed : storedFailure? request violated = some failure

theorem exists_stopsAt {database : Database} {request : Request} {coverageType : CoverageTypeId}
    {sequence : Int64}
    (violated : (checkRules database request).outcome =
      .error (.ruleViolation coverageType sequence)) :
    ∃ front stored back,
      StopsAt database request front stored back (.ruleViolation coverageType sequence) := by
  cases answer : Query.rejectionRules database request.coverageType request.contract with
  | error fault => simp [checkRules, storedRules, Traced.outcome_bind, answer, Except.bind] at violated
  | ok found =>
      rw [outcome_checkRules_of_ok answer] at violated
      cases first : found.findSome? (storedFailure? request) with
      | none => simp [first, outcomeOf] at violated
      | some failure =>
          simp only [first, outcomeOf, Except.error.injEq] at violated
          obtain ⟨front, stored, back, rfl, failed, passed⟩ := List.findSome?_eq_some_iff.mp first
          exact ⟨front, stored, back, answer, passed, violated ▸ failed⟩

theorem StopsAt.mem_back {database : Database} {request : Request} {front back : List StoredRule}
    {violated late : StoredRule} {coverageType : CoverageTypeId} {sequence : Int64} {cause : Cause}
    (stops : StopsAt database request front violated back (.ruleViolation coverageType sequence))
    (member : late ∈ front ++ violated :: back) (unusable : unusable? late = some cause) :
    late ∈ back := by
  have fails := storedFailure?_of_unusable unusable request
  rcases List.mem_append.mp member with inFront | rest
  · rw [stops.passed late inFront] at fails
    cases fails
  · rcases List.mem_cons.mp rest with rfl | inBack
    · rw [stops.failed] at fails
      cases fails
    · exact inBack

/-- The check and the report agree. The check passes exactly if there is a report without a
violation; a report's first violation is the check's; a check that cannot be made has no report
either; and where the check stops at a violated rule, the report has that violation first, or fails
by a rule behind it. -/
theorem check_agrees_with_report (database : Database) (request : Request) :
    ((checkRules database request).outcome = .ok () ↔
      ∃ report, (explainRules database request).outcome = .ok report ∧
        report.firstViolation = none) ∧
    (∀ report evaluation, (explainRules database request).outcome = .ok report →
      report.firstViolation = some evaluation →
      (checkRules database request).outcome =
        .error (.ruleViolation request.coverageType evaluation.sequence)) ∧
    (∀ operation cause,
      (checkRules database request).outcome = .error (.dataAccess operation cause) →
      ∃ reportOperation reportCause, (explainRules database request).outcome =
        .error (.dataAccess reportOperation reportCause)) ∧
    ∀ coverageType sequence,
      (checkRules database request).outcome = .error (.ruleViolation coverageType sequence) →
      (∃ report evaluation, (explainRules database request).outcome = .ok report ∧
        report.firstViolation = some evaluation ∧ evaluation.sequence = sequence) ∨
      ∃ front violated back,
        StopsAt database request front violated back (.ruleViolation coverageType sequence) ∧
          ∃ late ∈ back, ∃ cause, unusable? late = some cause ∧
            (explainRules database request).outcome = .error (.dataAccess .checkingRules cause) := by
  refine ⟨⟨?_, ?_⟩, ?_, ?_, ?_⟩
  · intro passed
    cases explained : (explainRules database request).outcome with
    | error failure => exact absurd passed (checkRules_failed_of_unexplained explained)
    | ok report =>
        rw [outcome_checkRules_of_explained explained, outcomeOf_eq_ok_iff,
          Option.map_eq_none_iff] at passed
        exact ⟨report, rfl, passed⟩
  · rintro ⟨report, explained, unviolated⟩
    rw [outcome_checkRules_of_explained explained, unviolated]
    rfl
  · intro report evaluation explained first
    rw [outcome_checkRules_of_explained explained, first]
    rfl
  · intro operation cause failed
    cases explained : (explainRules database request).outcome with
    | error failure =>
        obtain ⟨reportCause, same, _⟩ := explainRules_error explained
        exact ⟨_, reportCause, by rw [same]⟩
    | ok report =>
        -- A report that is made lets the check fail by a violation at most.
        rw [outcome_checkRules_of_explained explained] at failed
        cases first : report.firstViolation with
        | none => simp [first, outcomeOf] at failed
        | some evaluation => simp [first, outcomeOf, violationOf] at failed
  · intro coverageType sequence violated
    cases explained : (explainRules database request).outcome with
    | ok report =>
        rw [outcome_checkRules_of_explained explained] at violated
        cases first : report.firstViolation with
        | none => simp [first, outcomeOf] at violated
        | some evaluation =>
            simp only [first, Option.map_some, outcomeOf, violationOf, Except.error.injEq,
              Failure.ruleViolation.injEq] at violated
            exact Or.inl ⟨report, evaluation, rfl, first, violated.2⟩
    | error failure =>
        obtain ⟨front, stored, back, stops⟩ := exists_stopsAt violated
        obtain ⟨cause, same, ⟨fault, unanswered⟩ | ⟨found, answer, late, member, unusable⟩⟩ :=
          explainRules_error explained
        · rw [stops.found] at unanswered
          cases unanswered
        · rw [stops.found] at answer
          cases answer
          have behind := stops.mem_back member unusable
          exact Or.inr ⟨front, stored, back, stops, late, behind, cause, unusable, by rw [same]⟩

end Underwriting.Gate
