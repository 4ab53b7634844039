import Underwriting.Gate.Failure
import Underwriting.Store.Query

/-!
The lookup checks, each with one question to the store and one rejection of its own. They read only,
and run in a fixed order up to the first that fails.
-/

namespace Underwriting.Gate

open Store

def require (operation : Operation) (asking : Event) (answer : Except Fault Bool)
    (refusing : Event) (failure : Failure) : Check Unit := do
  .emit asking
  let found ← answered operation answer
  if found then return ()
  else do
    .emit refusing
    .fail failure

def checkContract (database : Database) (contract : ContractId) : Check Unit :=
  let topic := "coverage_validate::checks::contract"
  let fields := [Field.shown "contract_id" contract]
  require .checkingContract
    ⟨.debug, topic, "checking contract exists", fields⟩
    (Query.contractExists database contract)
    ⟨.warn, topic, "contract does not exist", fields⟩
    (.contractNotFound contract)

def checkCoverageType (database : Database) (coverageType : CoverageTypeId) : Check Unit :=
  let topic := "coverage_validate::checks::coverage_type"
  let fields := [Field.shown "coverage_type_id" coverageType]
  require .checkingCoverageType
    ⟨.debug, topic, "checking coverage type exists", fields⟩
    (Query.coverageTypeExists database coverageType)
    ⟨.warn, topic, "coverage type does not exist", fields⟩
    (.coverageTypeNotFound coverageType)

def checkProduct (database : Database) (contract : ContractId) (coverageType : CoverageTypeId) :
    Check Unit :=
  let topic := "coverage_validate::checks::product"
  let fields :=
    [Field.shown "contract_id" contract, Field.shown "coverage_type_id" coverageType]
  require .checkingProduct
    ⟨.debug, topic, "checking product compatibility", fields⟩
    (Query.productMatches database contract coverageType)
    ⟨.warn, topic, "coverage type does not belong to the contract's product", fields⟩
    (.productMismatch contract coverageType)

def checkAmount (database : Database) (coverageType : CoverageTypeId) (amount : Decimal) :
    Check Unit :=
  let topic := "coverage_validate::checks::amount"
  let fields := [Field.shown "coverage_type_id" coverageType, Field.shown "amount" amount]
  require .checkingAmount
    ⟨.debug, topic, "checking coverage amount", fields⟩
    (Query.amountListed database coverageType amount)
    ⟨.warn, topic, "amount is not offered for coverage type", fields⟩
    (.invalidAmount coverageType amount)

def checkPrice (database : Database) (coverageType : CoverageTypeId) (amount : Decimal)
    (on : Date) : Check Unit :=
  let topic := "coverage_validate::checks::price"
  let fields :=
    [Field.shown "coverage_type_id" coverageType, Field.shown "amount" amount,
      Field.shown "on" on]
  require .checkingPrice
    ⟨.debug, topic, "checking coverage price", fields⟩
    (Query.priceValid database coverageType amount on)
    ⟨.warn, topic, "no valid price for coverage amount", fields⟩
    (.priceUnavailable coverageType amount on)

def runLookups (database : Database) (request : Request) (on : Date) : Check Unit := do
  checkContract database request.contract
  checkCoverageType database request.coverageType
  checkProduct database request.contract request.coverageType
  checkAmount database request.coverageType request.amount
  checkPrice database request.coverageType request.amount on

end Underwriting.Gate
