import Underwriting.Rule.Age
import Underwriting.Rule.Amount
import Underwriting.Trace

/-!
Evaluation of one rejection rule for a customer's age and an amount. The rule is violated when
either of its conditions holds. An age condition that cannot be read is reported as a warning and
does not match; an amount condition that cannot be read is a fault, whatever the age says.
-/

namespace Underwriting

structure Evaluation where
  sequence : Int64
  ageRule : Option AgeRule
  amountRule : AmountRule
  ageSatisfied : Bool
  amountSatisfied : Bool
  ageAnomaly : Option String
deriving DecidableEq

def Evaluation.isViolated (evaluation : Evaluation) : Bool :=
  evaluation.ageSatisfied || evaluation.amountSatisfied

def ignoredAgeRule (topic : String) (context : List Field) (fault : RuleFault) : Event :=
  ⟨.warn, topic, "ignoring malformed age rule",
    context ++ [.shown "rule" fault.text, .shown "error" fault.message]⟩

def AgeRule.violated (text : String) (age : Int) : Traced RuleFault Bool :=
  match AgeRule.ofText text with
  | .ok rule => pure (rule.isSatisfiedBy age)
  | .error fault => do
      .emit (ignoredAgeRule "coverage_rules::grammar" [] fault)
      return false

def RejectionRule.readAge (rule : RejectionRule) :
    Traced RuleFault (Option AgeRule × Option String) :=
  match AgeRule.ofText rule.ageText with
  | .ok ageRule => pure (some ageRule, none)
  | .error fault => do
      .emit (ignoredAgeRule "coverage_rules::evaluation"
        [⟨"sequence", .number rule.sequence.toInt⟩] fault)
      return (none, some fault.message)

def RejectionRule.evaluate (rule : RejectionRule) (age : Int) (amount : Decimal) :
    Traced RuleFault Evaluation := do
  let (ageRule, ageAnomaly) ← rule.readAge
  match AmountRule.ofText rule.amountText with
  | .error fault => .fail fault
  | .ok amountRule =>
      return {
        sequence := rule.sequence
        ageRule
        amountRule
        ageSatisfied := ageRule.any (·.isSatisfiedBy age)
        amountSatisfied := amountRule.isSatisfiedBy amount
        ageAnomaly }

end Underwriting
