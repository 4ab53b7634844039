import Underwriting.Proofs.Rule.AgeGrammar
import Underwriting.Rule.Evaluation

/-!
An evaluated rule against its two conditions taken alone. The evaluation has the verdict of each, and
it is refused exactly as the amount condition is, whatever the age condition says. An age condition
that cannot be read leaves its message in the evaluation and one warning in the log, as it does when
it is asked alone.
-/

namespace Underwriting

theorem AmountRule.isSatisfiedBy_iff {rule : AmountRule} {amount : Decimal} :
    rule.isSatisfiedBy amount = true ↔
      ∃ floor, rule = .atLeast floor ∧ floor.atMost amount = true := by
  cases rule <;> simp [isSatisfiedBy]

theorem AmountRule.violated_eq_ok {text : String} {amount : Decimal} {result : Bool} :
    violated text amount = .ok result ↔
      ∃ rule, ofText text = .ok rule ∧ rule.isSatisfiedBy amount = result := by
  unfold violated
  cases ofText text <;> simp [Except.map]

theorem countLevel_ignoredAgeRule (level : Level) (topic : String) (context : List Field)
    (fault : RuleFault) (scopes : List Span) :
    countLevel level [.event (ignoredAgeRule topic context fault) scopes] =
      if level = .warn then 1 else 0 := by
  rw [countLevel_singleton]
  simp [ignoredAgeRule, eq_comm]

namespace RejectionRule

def matchesAge (rule : RejectionRule) (age : Int) : Bool :=
  (AgeRule.ofText rule.ageText).toOption.any (·.isSatisfiedBy age)

def ignoresAge (rule : RejectionRule) : Bool := !(AgeRule.ofText rule.ageText).isOk

def anomaly? (rule : RejectionRule) : Option String :=
  match AgeRule.ofText rule.ageText with
  | .ok _ => none
  | .error fault => some fault.message

def evaluationBy (rule : RejectionRule) (age : Int) (amount : Decimal) (amountRule : AmountRule) :
    Evaluation where
  sequence := rule.sequence
  ageRule := (AgeRule.ofText rule.ageText).toOption
  amountRule := amountRule
  ageSatisfied := rule.matchesAge age
  amountSatisfied := amountRule.isSatisfiedBy amount
  ageAnomaly := rule.anomaly?

section Reading

variable (rule : RejectionRule)

theorem outcome_readAge :
    rule.readAge.outcome = .ok ((AgeRule.ofText rule.ageText).toOption, rule.anomaly?) := by
  unfold readAge anomaly?
  cases AgeRule.ofText rule.ageText <;> rfl

theorem countLevel_readAge (level : Level) :
    countLevel level rule.readAge.entries = if level = .warn ∧ rule.ignoresAge then 1 else 0 := by
  unfold readAge ignoresAge
  cases AgeRule.ofText rule.ageText with
  | ok ageRule => simp [countLevel, Except.isOk, Except.toBool]
  | error fault =>
      change countLevel level [.event (ignoredAgeRule _ _ fault) []] = _
      rw [countLevel_ignoredAgeRule]
      simp [Except.isOk, Except.toBool]

theorem outcome_violated_ageText (age : Int) :
    (AgeRule.violated rule.ageText age).outcome = .ok (rule.matchesAge age) := by
  unfold matchesAge
  cases read : AgeRule.ofText rule.ageText with
  | ok ageRule => exact AgeRule.outcome_violated_of_ok read age
  | error fault => exact AgeRule.outcome_violated_of_error read age

theorem toOption_ofText_eq_none_iff :
    (AgeRule.ofText rule.ageText).toOption = none ↔
      ∃ fault, AgeRule.ofText rule.ageText = .error fault := by
  cases AgeRule.ofText rule.ageText <;> simp [Except.toOption]

theorem isSome_anomaly?_iff :
    rule.anomaly?.isSome ↔ ∃ fault, AgeRule.ofText rule.ageText = .error fault := by
  unfold anomaly?
  cases AgeRule.ofText rule.ageText <;> simp

variable (age : Int) (amount : Decimal)

theorem entries_evaluate : (rule.evaluate age amount).entries = rule.readAge.entries := by
  unfold evaluate
  rw [Traced.bind_of_ok rule.outcome_readAge]
  cases AmountRule.ofText rule.amountText <;> simp

/-- An evaluation fails by the amount condition alone; the age condition can only add to what is
told. -/
theorem outcome_evaluate :
    (rule.evaluate age amount).outcome =
      (AmountRule.ofText rule.amountText).map (rule.evaluationBy age amount) := by
  unfold evaluate
  rw [Traced.bind_of_ok rule.outcome_readAge]
  cases AmountRule.ofText rule.amountText <;> rfl

theorem outcome_evaluate_eq_error_iff {fault : RuleFault} :
    (rule.evaluate age amount).outcome = .error fault ↔
      AmountRule.violated rule.amountText amount = .error fault := by
  rw [outcome_evaluate, AmountRule.violated]
  cases AmountRule.ofText rule.amountText <;> simp [Except.map]

theorem outcome_evaluate_eq_ok_iff {evaluation : Evaluation} :
    (rule.evaluate age amount).outcome = .ok evaluation ↔
      ∃ amountRule, AmountRule.ofText rule.amountText = .ok amountRule ∧
        rule.evaluationBy age amount amountRule = evaluation := by
  rw [outcome_evaluate]
  cases AmountRule.ofText rule.amountText <;> simp [Except.map]

theorem isViolated_evaluationBy_iff {amountRule : AmountRule}
    (read : AmountRule.ofText rule.amountText = .ok amountRule) :
    (rule.evaluationBy age amount amountRule).isViolated = true ↔
      (AgeRule.violated rule.ageText age).outcome = .ok true ∨
        AmountRule.violated rule.amountText amount = .ok true := by
  rw [outcome_violated_ageText, AmountRule.violated, read]
  simp [Evaluation.isViolated, evaluationBy, Except.map]

theorem countLevel_evaluate (level : Level) :
    countLevel level (rule.evaluate age amount).entries =
      countLevel level (AgeRule.violated rule.ageText age).entries := by
  rw [entries_evaluate]
  unfold readAge AgeRule.violated
  cases AgeRule.ofText rule.ageText with
  | ok ageRule => rfl
  | error fault =>
      -- The two events differ in their topics and fields, not in their levels.
      change countLevel level [.event (ignoredAgeRule _ _ fault) []] =
        countLevel level [.event (ignoredAgeRule _ _ fault) []]
      rw [countLevel_ignoredAgeRule, countLevel_ignoredAgeRule]

end Reading

theorem outcome_evaluate_of_error {rule : RejectionRule} {fault : RuleFault}
    (unread : AmountRule.ofText rule.amountText = .error fault) (age : Int) (amount : Decimal) :
    (rule.evaluate age amount).outcome = .error fault := by
  rw [outcome_evaluate, unread]
  rfl

theorem outcome_evaluate_of_ok {rule : RejectionRule} {amountRule : AmountRule}
    (read : AmountRule.ofText rule.amountText = .ok amountRule) (age : Int) (amount : Decimal) :
    ∃ evaluation, (rule.evaluate age amount).outcome = .ok evaluation ∧
      evaluation.sequence = rule.sequence ∧
      evaluation.isViolated = (rule.matchesAge age || amountRule.isSatisfiedBy amount) := by
  rw [outcome_evaluate, read]
  exact ⟨rule.evaluationBy age amount amountRule, rfl, rfl, rfl⟩

/-- The two conditions of a rule, asked alone, and its evaluation agree: they fail alike, each verdict
is the condition's own, the rule is violated if either condition is, an age condition that cannot be
read is told by its message, and as many warnings are logged. Texts that are not there are blank. -/
theorem evaluation_agrees_with_conditions (rule : RejectionRule) (age : Int) (amount : Decimal) :
    let ageText := rule.ageRule.getD ""
    let ageAlone := AgeRule.violated ageText age
    let amountAlone := AmountRule.violated (rule.amountRule.getD "") amount
    let both := rule.evaluate age amount
    (∀ fault, both.outcome = .error fault ↔ amountAlone = .error fault) ∧
      (∀ verdict, amountAlone = .ok verdict ↔
        ∃ evaluation, both.outcome = .ok evaluation ∧
          evaluation.amountSatisfied = verdict ∧
          ageAlone.outcome = .ok evaluation.ageSatisfied ∧
          (evaluation.isViolated = true ↔ ageAlone.outcome = .ok true ∨ amountAlone = .ok true) ∧
          (evaluation.ageRule = none ↔ evaluation.ageAnomaly.isSome) ∧
          (evaluation.ageAnomaly.isSome ↔ ∃ fault, AgeRule.ofText ageText = .error fault)) ∧
      (∀ level, countLevel level both.entries = countLevel level ageAlone.entries) ∧
      countLevel .warn both.entries = if rule.ignoresAge then 1 else 0 := by
  intro ageText ageAlone amountAlone both
  refine ⟨fun fault => rule.outcome_evaluate_eq_error_iff age amount, ?_,
    rule.countLevel_evaluate age amount, ?_⟩
  · intro verdict
    constructor
    · intro answered
      obtain ⟨amountRule, read, rfl⟩ := AmountRule.violated_eq_ok.mp answered
      have evaluates := (rule.outcome_evaluate_eq_ok_iff age amount).mpr ⟨amountRule, read, rfl⟩
      have unread := rule.isSome_anomaly?_iff
      refine ⟨_, evaluates, rfl, rule.outcome_violated_ageText age,
        rule.isViolated_evaluationBy_iff age amount read, ?_, unread⟩
      exact rule.toOption_ofText_eq_none_iff.trans unread.symm
    · rintro ⟨evaluation, evaluates, rfl, _⟩
      obtain ⟨amountRule, read, rfl⟩ := (rule.outcome_evaluate_eq_ok_iff age amount).mp evaluates
      exact AmountRule.violated_eq_ok.mpr ⟨amountRule, read, rfl⟩
  · have logged := rule.countLevel_readAge .warn
    rw [← rule.entries_evaluate age amount] at logged
    simpa using logged

example (amount : Decimal) :
    (evaluate ⟨1, some ">=40", some ">=lots"⟩ 45 amount).outcome =
      .error (.malformedAmount ">=lots") := rfl

end RejectionRule

end Underwriting
