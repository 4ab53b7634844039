import Underwriting.Proofs.Gate.Outcome
import Underwriting.Proofs.Store.Answers
import Underwriting.Store.Sample

/-!
Lookups that settle earlier ones. A product that matches has its contract and its coverage type, and
a price belongs to an offered amount; so a request passes all five lookups exactly if it passes those
for the product and the price. This holds of every database, also of one that lacks relations or
columns.
-/

namespace Underwriting.Gate

open Store

variable {database : Database} {contract : ContractId} {coverageType : CoverageTypeId}
  {amount : Decimal} {on : Date}

theorem checkProduct_ok_iff :
    (checkProduct database contract coverageType).outcome = .ok () ↔
      database.ProductMatches contract coverageType := by
  rw [checkProduct, outcome_require, decided_ok_iff]
  exact Database.productMatches_eq_ok_true_iff

theorem checkPrice_ok_iff :
    (checkPrice database coverageType amount on).outcome = .ok () ↔
      database.PriceValid coverageType amount on := by
  rw [checkPrice, outcome_require, decided_ok_iff]
  exact Database.priceValid_eq_ok_true_iff

theorem checkContract_of_productMatches
    (matched : database.ProductMatches contract coverageType) :
    (checkContract database contract).outcome = .ok () := by
  rw [checkContract, outcome_require, decided_ok_iff]
  exact Database.contractExists_of_productMatches matched

theorem checkCoverageType_of_productMatches
    (matched : database.ProductMatches contract coverageType) :
    (checkCoverageType database coverageType).outcome = .ok () := by
  rw [checkCoverageType, outcome_require, decided_ok_iff]
  exact Database.coverageTypeExists_of_productMatches matched

theorem checkAmount_of_priceValid (valid : database.PriceValid coverageType amount on) :
    (checkAmount database coverageType amount).outcome = .ok () := by
  rw [checkAmount, outcome_require, decided_ok_iff]
  exact Database.amountListed_of_priceValid valid

theorem runLookups_ok_iff {request : Request} :
    (runLookups database request on).outcome = .ok () ↔
      (checkContract database request.contract).outcome = .ok () ∧
        (checkCoverageType database request.coverageType).outcome = .ok () ∧
        (checkProduct database request.contract request.coverageType).outcome = .ok () ∧
        (checkAmount database request.coverageType request.amount).outcome = .ok () ∧
        (checkPrice database request.coverageType request.amount on).outcome = .ok () := by
  simp only [runLookups, outcome_bind_eq_ok_iff]

/-- A lookup for a product settles those for its contract and coverage type, one for a price settles
that for its amount, and the two settle all. -/
theorem later_lookups_settle_earlier (database : Database) (request : Request) (on : Date) :
    ((checkProduct database request.contract request.coverageType).outcome = .ok () →
        (checkContract database request.contract).outcome = .ok () ∧
          (checkCoverageType database request.coverageType).outcome = .ok ()) ∧
      ((checkPrice database request.coverageType request.amount on).outcome = .ok () →
        (checkAmount database request.coverageType request.amount).outcome = .ok ()) ∧
      ((runLookups database request on).outcome = .ok () ↔
        (checkProduct database request.contract request.coverageType).outcome = .ok () ∧
          (checkPrice database request.coverageType request.amount on).outcome = .ok ()) := by
  have byProduct (product :
      (checkProduct database request.contract request.coverageType).outcome = .ok ()) :
      (checkContract database request.contract).outcome = .ok () ∧
        (checkCoverageType database request.coverageType).outcome = .ok () := by
    have matched := checkProduct_ok_iff.mp product
    exact ⟨checkContract_of_productMatches matched, checkCoverageType_of_productMatches matched⟩
  have byPrice (price :
      (checkPrice database request.coverageType request.amount on).outcome = .ok ()) :
      (checkAmount database request.coverageType request.amount).outcome = .ok () :=
    checkAmount_of_priceValid (checkPrice_ok_iff.mp price)
  refine ⟨byProduct, byPrice, ?_⟩
  rw [runLookups_ok_iff]
  constructor
  · rintro ⟨_, _, product, _, price⟩
    exact ⟨product, price⟩
  · rintro ⟨product, price⟩
    obtain ⟨contract, coverageType⟩ := byProduct product
    exact ⟨contract, coverageType, product, byPrice price, price⟩

theorem sample_lookups_settled :
    let database := Sample.singleContract 1 []
    (checkProduct database ⟨100⟩ ⟨7⟩).outcome = .ok () ∧
      (checkPrice database ⟨7⟩ Sample.tenThousand Sample.day).outcome = .ok () ∧
      (runLookups database Sample.request Sample.day).outcome = .ok () := by
  intro database
  have product : (checkProduct database ⟨100⟩ ⟨7⟩).outcome = .ok () := by decide +kernel
  have price : (checkPrice database ⟨7⟩ Sample.tenThousand Sample.day).outcome = .ok () := by
    decide +kernel
  exact ⟨product, price,
    (later_lookups_settle_earlier database Sample.request Sample.day).2.2.mpr ⟨product, price⟩⟩

end Underwriting.Gate
