import Underwriting.Calendar.Age
import Underwriting.Gate.Failure
import Underwriting.Rule.Evaluation
import Underwriting.Store.Query

/-!
Rejection rules of a request. A check decodes and evaluates one stored rule after the other and
stops at the first that is violated or cannot be used; a report first decodes all of them and then
evaluates every one.
-/

namespace Underwriting.Gate

open Store

structure DatedRule where
  rule : RejectionRule
  contractStart : Date
  birthDate : Date
deriving DecidableEq

def DatedRule.customerAge (dated : DatedRule) : Int := ageAt dated.birthDate dated.contractStart

def classOf : Value → ValueClass
  | .null => .null
  | .integer _ => .integer
  | .real _ => .real
  | .text _ => .text
  | .blob _ => .blob

namespace Decoding

def wholeNumber (index : Nat) (output : Output) : Except Fault Int64 :=
  match output.value with
  | .integer number => .ok number
  | other => .error (.columnClass (classOf other) index output.name)

def optionalText (index : Nat) (output : Output) : Except Fault (Option String) :=
  match output.value with
  | .null => .ok none
  | .text content => .ok (some content)
  | other => .error (.columnClass (classOf other) index output.name)

def date (index : Nat) (output : Output) : Except Fault Date :=
  match output.value with
  | .text content =>
      match Date.ofText .compact content with
      | .ok date => .ok date
      | .error cause => .error (.conversion index cause)
  | other => .error (.columnClass (classOf other) index output.name)

end Decoding

def decode (stored : StoredRule) : Except Fault DatedRule := do
  let sequence ← Decoding.wholeNumber 0 stored.sequence
  let ageRule ← Decoding.optionalText 1 stored.ageRule
  let amountRule ← Decoding.optionalText 2 stored.amountRule
  let contractStart ← Decoding.date 3 stored.contractStart
  let birthDate ← Decoding.date 4 stored.birthDate
  return ⟨⟨sequence, ageRule, amountRule⟩, contractStart, birthDate⟩

def evaluated (dated : DatedRule) (amount : Decimal) : Check Evaluation :=
  let evaluation := dated.rule.evaluate dated.customerAge amount
  match evaluation.outcome with
  | .ok result => ⟨.ok result, evaluation.entries⟩
  | .error fault => ⟨.error (.dataAccess .checkingRules (.ruleText fault)), evaluation.entries⟩

def engineTopic : String := "coverage_validate::engine"

def evaluatedEvent (dated : DatedRule) (evaluation : Evaluation) : Event :=
  ⟨.debug, engineTopic, "evaluated rejection rule",
    [⟨"sequence", .number evaluation.sequence.toInt⟩,
      .shown "age_rule" dated.rule.ageText,
      .shown "amount_rule" dated.rule.amountText,
      ⟨"customer_age", .number dated.customerAge⟩,
      ⟨"age_satisfied", .flag evaluation.ageSatisfied⟩,
      ⟨"amount_satisfied", .flag evaluation.amountSatisfied⟩]⟩

def violatedEvent (request : Request) (dated : DatedRule) (evaluation : Evaluation) : Event :=
  ⟨.warn, engineTopic, "rejection rule violated",
    [.shown "coverage_type_id" request.coverageType,
      ⟨"sequence", .number evaluation.sequence.toInt⟩,
      .shown "age_rule" dated.rule.ageText,
      .shown "amount_rule" dated.rule.amountText,
      ⟨"customer_age", .number dated.customerAge⟩,
      .shown "amount" request.amount]⟩

def checkRule (request : Request) (stored : StoredRule) : Check Unit := do
  let dated ← answered .checkingRules (decode stored)
  let evaluation ← evaluated dated request.amount
  .emit (evaluatedEvent dated evaluation)
  if evaluation.isViolated then do
    .emit (violatedEvent request dated evaluation)
    .fail (.ruleViolation request.coverageType evaluation.sequence)
  else return ()

def checkEach (request : Request) : List StoredRule → Check Unit
  | [] => pure ()
  | stored :: rest => do
      checkRule request stored
      checkEach request rest

def storedRules (database : Database) (request : Request) : Check (List StoredRule) :=
  answered .checkingRules
    (Query.rejectionRules database request.coverageType request.contract)

def checkRules (database : Database) (request : Request) : Check Unit := do
  .emit ⟨.debug, engineTopic, "checking rejection rules",
    [.shown "contract_id" request.contract, .shown "coverage_type_id" request.coverageType,
      .shown "amount" request.amount]⟩
  let rules ← storedRules database request
  checkEach request rules
  .emit ⟨.debug, engineTopic, "all rejection rules passed",
    [.shown "coverage_type_id" request.coverageType]⟩

structure RuleReport where
  coverageType : CoverageTypeId
  /-- Taken from the first rule; a coverage type without rules has none. -/
  customerAge : Option Int
  evaluations : List Evaluation
deriving DecidableEq

def RuleReport.firstViolation (report : RuleReport) : Option Evaluation :=
  report.evaluations.find? (·.isViolated)

def evaluateEach (amount : Decimal) : List DatedRule → Check (List Evaluation)
  | [] => pure []
  | dated :: rest => do
      let evaluation ← evaluated dated amount
      let evaluations ← evaluateEach amount rest
      return evaluation :: evaluations

def decodeAll : List StoredRule → Except Fault (List DatedRule)
  | [] => .ok []
  | stored :: rest => do
      let dated ← decode stored
      let others ← decodeAll rest
      return dated :: others

def explainRules (database : Database) (request : Request) : Check RuleReport := do
  let rules ← answered .checkingRules
    ((Query.rejectionRules database request.coverageType request.contract).bind decodeAll)
  let evaluations ← evaluateEach request.amount rules
  return ⟨request.coverageType, rules.head?.map (·.customerAge), evaluations⟩

end Underwriting.Gate
