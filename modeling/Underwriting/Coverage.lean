import Underwriting.Decimal.Literal
import Underwriting.Text.Quoted

/-!
What is asked of the gate and what it answers with: a request attaches a coverage of one type and
amount to a contract, and an accepted request becomes a coverage. A rejection rule is kept as it is
stored, with its two conditions as texts.
-/

namespace Underwriting

structure ContractId where
  number : Int64
deriving DecidableEq

structure CoverageTypeId where
  number : Int64
deriving DecidableEq

inductive InputError
  | contractId (text : String)
  | coverageTypeId (text : String)
  | amount (text : String)
deriving DecidableEq

def InputError.message : InputError → String
  | .contractId text => "invalid contract id: " ++ Text.quotedText text
  | .coverageTypeId text => "invalid coverage type id: " ++ Text.quotedText text
  | .amount text => "invalid coverage amount: " ++ Text.quotedText text

def ContractId.ofText (text : String) : Except InputError ContractId :=
  match Text.int64? (Text.trim text.toList) with
  | some number => .ok ⟨number⟩
  | none => .error (.contractId text)

def ContractId.toText (contract : ContractId) : String :=
  Text.integerText contract.number.toInt

instance : ToString ContractId := ⟨ContractId.toText⟩

def CoverageTypeId.ofText (text : String) : Except InputError CoverageTypeId :=
  match Text.int64? (Text.trim text.toList) with
  | some number => .ok ⟨number⟩
  | none => .error (.coverageTypeId text)

def CoverageTypeId.toText (coverageType : CoverageTypeId) : String :=
  Text.integerText coverageType.number.toInt

instance : ToString CoverageTypeId := ⟨CoverageTypeId.toText⟩

def amountOfText (text : String) : Except InputError Decimal :=
  match Decimal.read (Text.trim text.toList) with
  | .ok amount => .ok amount
  | .error _ => .error (.amount text)

structure Request where
  contract : ContractId
  coverageType : CoverageTypeId
  amount : Decimal
deriving DecidableEq

def Request.toText (request : Request) : String :=
  "contract " ++ request.contract.toText ++ " / coverage type " ++ request.coverageType.toText ++
    " / amount " ++ request.amount.toText

instance : ToString Request := ⟨Request.toText⟩

structure Coverage where
  contract : ContractId
  coverageType : CoverageTypeId
  amount : Decimal
deriving DecidableEq

def Coverage.ofRequest (request : Request) : Coverage :=
  ⟨request.contract, request.coverageType, request.amount⟩

structure RejectionRule where
  sequence : Int64
  ageRule : Option String
  amountRule : Option String
deriving DecidableEq

namespace RejectionRule

def ageText (rule : RejectionRule) : String := rule.ageRule.getD ""

def amountText (rule : RejectionRule) : String := rule.amountRule.getD ""

end RejectionRule

end Underwriting
