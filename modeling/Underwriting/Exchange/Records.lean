import Underwriting.Coverage
import Underwriting.Json.Basic
import Underwriting.Json.Record
import Underwriting.Number.Shortest

/-!
Requests, coverages and rejection rules as JSON. Amounts are written as texts, so that their scale
stays; they may also be read from numbers, a number that is not whole by its shortest decimal text.
-/

namespace Underwriting.Exchange

open Json (Scalar Shape)

def int64? : Scalar → Option Int64
  | .whole number =>
      if Int64.minValue.toInt ≤ number ∧ number ≤ Int64.maxValue.toInt then
        some (Int64.ofInt number)
      else none
  | _ => none

def amount? : Scalar → Option Decimal
  | .text content => (Decimal.read content).toOption
  | .whole number => (Decimal.read (Text.integerChars number)).toOption
  | .real number => (Decimal.read (Binary64.toShortestChars number)).toOption
  | _ => none

def optionalText? : Scalar → Option (Option String)
  | .null => some none
  | .text content => some (some (String.ofList content))
  | _ => none

def contractName : String := "contract_id"

def coverageTypeName : String := "coverage_type_id"

def requestShape : Shape Int64 Int64 Decimal :=
  ⟨⟨contractName, int64?, none⟩, ⟨coverageTypeName, int64?, none⟩, ⟨"amount", amount?, none⟩⟩

def ruleShape : Shape Int64 (Option String) (Option String) :=
  ⟨⟨"sequence", int64?, none⟩, ⟨"age_rule", optionalText?, some none⟩,
    ⟨"amount_rule", optionalText?, some none⟩⟩

end Underwriting.Exchange

namespace Underwriting

open Exchange

def ContractId.toJson (contract : ContractId) : Json := .number contract.number.toInt

def CoverageTypeId.toJson (coverageType : CoverageTypeId) : Json :=
  .number coverageType.number.toInt

def Decimal.toJson (amount : Decimal) : Json := .text amount.toText

namespace Request

def toJson (request : Request) : Json :=
  .object [(contractName, request.contract.toJson),
    (coverageTypeName, request.coverageType.toJson), ("amount", request.amount.toJson)]

def ofJson (text : String) : Except Json.Fault Request :=
  (requestShape.read text.toList).map fun (contract, coverageType, amount) =>
    ⟨⟨contract⟩, ⟨coverageType⟩, amount⟩

end Request

namespace Coverage

def toJson (coverage : Coverage) : Json :=
  .object [(contractName, coverage.contract.toJson),
    (coverageTypeName, coverage.coverageType.toJson), ("amount", coverage.amount.toJson)]

def ofJson (text : String) : Except Json.Fault Coverage :=
  (requestShape.read text.toList).map fun (contract, coverageType, amount) =>
    ⟨⟨contract⟩, ⟨coverageType⟩, amount⟩

end Coverage

namespace RejectionRule

def textToJson : Option String → Json
  | none => .null
  | some text => .text text

def toJson (rule : RejectionRule) : Json :=
  .object [("sequence", .number rule.sequence.toInt), ("age_rule", textToJson rule.ageRule),
    ("amount_rule", textToJson rule.amountRule)]

def ofJson (text : String) : Except Json.Fault RejectionRule :=
  (ruleShape.read text.toList).map fun (sequence, ageRule, amountRule) =>
    ⟨sequence, ageRule, amountRule⟩

end RejectionRule

end Underwriting
