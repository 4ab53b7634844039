import Underwriting.Rule.Fault
import Underwriting.Store.Fault
import Underwriting.Trace

/-!
Why a request is not persisted. Each check of the gate has a rejection of its own; every other
failure is a failed access to the data, with the operation that failed and its cause.
-/

namespace Underwriting.Gate

inductive Operation
  | checkingContract
  | checkingCoverageType
  | checkingProduct
  | checkingAmount
  | checkingPrice
  | checkingRules
  | insertingCoverage
  | probingSchema
deriving DecidableEq

def Operation.name : Operation → String
  | .checkingContract => "checking contract"
  | .checkingCoverageType => "checking coverage type"
  | .checkingProduct => "checking product compatibility"
  | .checkingAmount => "checking coverage amount"
  | .checkingPrice => "checking coverage price"
  | .checkingRules => "checking rejection rules"
  | .insertingCoverage => "inserting coverage"
  | .probingSchema => "probing schema"

inductive Cause
  | store (fault : Store.Fault)
  | rowCount (affected : Nat)
  | ruleText (fault : RuleFault)
deriving DecidableEq

def Cause.message : Cause → String
  | .store fault => fault.message
  | .rowCount affected => "expected exactly 1 affected row, got " ++ toString affected
  | .ruleText fault => fault.message

def Cause.causes : Cause → List String
  | .store fault => fault.causes
  | .rowCount _ => []
  | .ruleText fault => fault.causes

inductive Failure
  | contractNotFound (contract : ContractId)
  | coverageTypeNotFound (coverageType : CoverageTypeId)
  | productMismatch (contract : ContractId) (coverageType : CoverageTypeId)
  | invalidAmount (coverageType : CoverageTypeId) (amount : Decimal)
  | priceUnavailable (coverageType : CoverageTypeId) (amount : Decimal) (on : Date)
  | ruleViolation (coverageType : CoverageTypeId) (sequence : Int64)
  | dataAccess (operation : Operation) (cause : Cause)
deriving DecidableEq

namespace Failure

def kind : Failure → String
  | .contractNotFound _ => "contract_not_found"
  | .coverageTypeNotFound _ => "coverage_type_not_found"
  | .productMismatch _ _ => "product_mismatch"
  | .invalidAmount _ _ => "invalid_amount"
  | .priceUnavailable _ _ _ => "price_unavailable"
  | .ruleViolation _ _ => "rule_violation"
  | .dataAccess _ _ => "data_access"

def isRejection : Failure → Bool
  | .dataAccess _ _ => false
  | _ => true

def message : Failure → String
  | .contractNotFound contract => "contract " ++ contract.toText ++ " does not exist"
  | .coverageTypeNotFound coverageType =>
      "coverage type " ++ coverageType.toText ++ " does not exist"
  | .productMismatch contract coverageType =>
      "coverage type " ++ coverageType.toText ++ " does not belong to the product of contract " ++
        contract.toText
  | .invalidAmount coverageType amount =>
      "amount " ++ amount.toText ++ " is not offered for coverage type " ++ coverageType.toText
  | .priceUnavailable coverageType amount on =>
      "no price valid on " ++ on.toText ++ " for coverage type " ++ coverageType.toText ++
        " with amount " ++ amount.toText
  | .ruleViolation coverageType sequence =>
      "coverage type " ++ coverageType.toText ++ " is rejected by rule " ++
        Text.integerText sequence.toInt
  | .dataAccess operation cause =>
      "data access failed while " ++ operation.name ++ ": " ++ cause.message

def causes : Failure → List String
  | .dataAccess _ cause => cause.message :: cause.causes
  | _ => []

end Failure

abbrev Check (α : Type) := Traced Failure α

def answered {α : Type} (operation : Operation) : Except Store.Fault α → Check α
  | .ok value => pure value
  | .error fault => do
      .emit ⟨.error, "coverage_validate::store", "database error",
        [⟨"operation", .quoted operation.name⟩, .shown "error" fault.message]⟩
      .fail (.dataAccess operation (.store fault))

end Underwriting.Gate
