import Underwriting.Gate.Lookup
import Underwriting.Gate.Rules

/-!
Admission of coverages. A request is validated by the lookups and then the rejection rules, and is
persisted only if every check passed. A request that fails leaves the database as it was.
-/

namespace Underwriting.Gate

open Store

structure Change (α : Type) where
  database : Database
  result : Check α

def requestFields (contract : ContractId) (coverageType : CoverageTypeId) (amount : Decimal) :
    List Field :=
  [.shown "contract_id" contract, .shown "coverage_type_id" coverageType,
    .shown "amount" amount]

def requestSpan (name : String) (request : Request) : Span :=
  ⟨"coverage_validate::service", name,
    requestFields request.contract request.coverageType request.amount⟩

def coverageRow (request : Request) : List (String × Value) :=
  [("Vertrag_FK", .integer request.contract.number),
    ("Deckungsart_FK", .integer request.coverageType.number),
    ("Deckungsbetrag", .text request.amount.toText)]

def insertTopic : String := "coverage_validate::insert"

def insertedRows (request : Request) (affected : Nat) : Check Coverage :=
  if affected = 1 then do
    let coverage := Coverage.ofRequest request
    .emit ⟨.info, insertTopic, "coverage inserted",
      requestFields coverage.contract coverage.coverageType coverage.amount⟩
    return coverage
  else do
    .emit ⟨.error, insertTopic, "unexpected number of affected rows",
      [⟨"affected", .number affected⟩]⟩
    .fail (.dataAccess .insertingCoverage (.rowCount affected))

def insertCoverage (database : Database) (request : Request) : Change Coverage :=
  match database.insert "Deckung" (coverageRow request) with
  | .error fault => ⟨database, answered .insertingCoverage (.error fault)⟩
  | .ok (changed, affected) => ⟨changed, insertedRows request affected⟩

def runChecks (database : Database) (request : Request) (on : Date) : Check Unit := do
  runLookups database request on
  checkRules database request

def validate (database : Database) (request : Request) (on : Date) : Check Unit :=
  .within (requestSpan "validate_coverage" request) (runChecks database request on)

def createCoverage (database : Database) (request : Request) (on : Date) : Change Coverage :=
  let checks : Check Unit := do
    .emit ⟨.info, "coverage_validate::service", "creating coverage", []⟩
    runChecks database request on
  let span := requestSpan "create_coverage" request
  match checks.outcome with
  | .error failure => ⟨database, .within span ⟨.error failure, checks.entries⟩⟩
  | .ok () =>
      let inserted := insertCoverage database request
      ⟨inserted.database, .within span (checks >>= fun () => inserted.result)⟩

end Underwriting.Gate
