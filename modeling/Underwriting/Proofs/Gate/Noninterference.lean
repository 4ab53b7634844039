import Underwriting.Gate.Admission
import Underwriting.Proofs.Store.Agreement
import Underwriting.Store.Sample

/-!
What validation and the report on rules do not depend on. Two databases with the same relations and
columns that agree on the rows of a request give it the same checks, down to their traces. Coverages
are not among these rows, and neither are the rules of other coverage types.
-/

namespace Underwriting.Gate

open Store

section Congruence

variable {first second : Database} {request : Request}

theorem runLookups_congr (same : Database.SameSchema first second)
    (agree : Database.AgreeOn request.contract request.coverageType first second) (on : Date) :
    runLookups first request on = runLookups second request on := by
  unfold runLookups checkContract checkCoverageType checkProduct checkAmount checkPrice
  rw [agree.contractExists_congr same, agree.coverageTypeExists_congr same,
    agree.productMatches_congr same, agree.amountListed_congr same,
    agree.priceValid_congr same]

theorem checkRules_congr (same : Database.SameSchema first second)
    (agree : Database.AgreeOn request.contract request.coverageType first second) :
    checkRules first request = checkRules second request := by
  unfold checkRules storedRules
  rw [agree.rejectionRules_congr same]

theorem runChecks_congr (same : Database.SameSchema first second)
    (agree : Database.AgreeOn request.contract request.coverageType first second) (on : Date) :
    runChecks first request on = runChecks second request on := by
  unfold runChecks
  rw [runLookups_congr same agree, checkRules_congr same agree]

theorem explainRules_congr (same : Database.SameSchema first second)
    (agree : Database.AgreeOn request.contract request.coverageType first second) :
    explainRules first request = explainRules second request := by
  unfold explainRules
  rw [agree.rejectionRules_congr same]

/-- Rows that do not belong to a request have no influence on its validation or on its report. -/
theorem unrelated_rows_ignored (same : Database.SameSchema first second)
    (agree : Database.AgreeOn request.contract request.coverageType first second) :
    (∀ on, validate first request on = validate second request on) ∧
      explainRules first request = explainRules second request := by
  refine ⟨?_, explainRules_congr same agree⟩
  intro on
  unfold validate
  rw [runChecks_congr same agree]

end Congruence

def ruleFromTwentyThousand : Row := [.integer 7, .integer 1, .text ">=20000", .null]

def smallPortfolio : Database := Sample.singleContract 1 [ruleFromTwentyThousand]

def busyPortfolio : Database :=
  .ofTables
    [{ Schema.products with rows := [[.integer 4, .null]] },
      { Schema.customers with
        rows := [[.integer 0, .null, .text "no date"],
          [.integer 1, .text "Muster", .text "1980-03-01"]] },
      { Schema.contracts with
        rows := [[.integer 7, .null, .integer 1, .integer 0],
          [.integer 100, .text "2025-06-01", .integer 1, .integer 1]] },
      { Schema.coverageTypes with
        rows := [[.integer 7, .integer 1], [.integer 8, .integer 4]] },
      { Schema.amounts with
        rows := [[.integer 1, .integer 7, .integer 10000], [.integer 7, .integer 8, .integer 10000]] },
      { Schema.prices with
        rows := [[.integer 1, .integer 1, .text "2025-01-01", .text "2025-12-31"],
          [.integer 2, .integer 7, .text "never", .null]] },
      { Schema.rejectionRules with
        rows := [[.integer 8, .text "none", .text "abc", .null], ruleFromTwentyThousand] },
      { Schema.coverages with
        rows := [[.integer 100, .integer 7, .integer 10000]] }]

theorem busyPortfolio_ignored :
    Database.SameSchema smallPortfolio busyPortfolio ∧
      Database.AgreeOn Sample.request.contract Sample.request.coverageType smallPortfolio
        busyPortfolio ∧
      smallPortfolio.rowsOf "Deckung" ≠ busyPortfolio.rowsOf "Deckung" ∧
      (∀ on, validate smallPortfolio Sample.request on = validate busyPortfolio Sample.request on) ∧
      explainRules smallPortfolio Sample.request = explainRules busyPortfolio Sample.request := by
  have same : Database.SameSchema smallPortfolio busyPortfolio :=
    Database.sameSchema_of_relations rfl (by decide +kernel)
  have agree : Database.AgreeOn Sample.request.contract Sample.request.coverageType smallPortfolio
      busyPortfolio :=
    ⟨by decide +kernel, by decide +kernel, by decide +kernel, by decide +kernel,
      by decide +kernel, by decide +kernel⟩
  exact ⟨same, agree, by decide +kernel, unrelated_rows_ignored same agree⟩

end Underwriting.Gate
