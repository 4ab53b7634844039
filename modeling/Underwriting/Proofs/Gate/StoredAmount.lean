import Underwriting.Proofs.Gate.Ledger
import Underwriting.Proofs.Gate.RuleRows
import Underwriting.Store.Holding
import Underwriting.Store.Sample

/-!
The amount of a persisted request as the ledger keeps it. Rules are checked against the requested
amount, and the column of the ledger converts it. A rule that passed the request is violated by the
kept amount exactly if its floor lies above the requested amount and not above the kept one.
-/

namespace Underwriting.Gate

open Store

def amountOf? (value : Value) : Option Decimal :=
  value.castText?.bind fun content => (Decimal.ofText content).toOption

def ledgerAmount? (database : Database) (row : Row) : Option Decimal := do
  let table ← database.table? ledgerName
  let index ← columnIndex? table.columns "Deckungsbetrag"
  amountOf? (row.valueAt index)

def keptAmount? (database : Database) (amount : Decimal) : Option Decimal := do
  let table ← database.table? ledgerName
  let index ← columnIndex? table.columns "Deckungsbetrag"
  let column ← table.columns[index]?
  amountOf? ((Value.text amount.toText).stored column.affinity)

def Violates (stored : StoredRule) (amount : Decimal) : Prop :=
  ∃ dated evaluation, decode stored = .ok dated ∧
    (dated.rule.evaluate dated.customerAge amount).outcome = .ok evaluation ∧
    evaluation.isViolated = true

/-- No joined rule is violated by what the ledger keeps of a request that is persisted. -/
def KeptAmountAdmitted (database : Database) (request : Request) (on : Date) : Prop :=
  ∀ coverage row kept, (createCoverage database request on).result.outcome = .ok coverage →
    Database.Grown ledgerName database (createCoverage database request on).database [row] →
    ledgerAmount? (createCoverage database request on).database row = some kept →
    ∀ ruleRow contractRow customerRow,
      database.Joins request.coverageType request.contract ruleRow contractRow customerRow →
      ¬Violates (database.storedRule ruleRow contractRow customerRow) kept

def HasFloor (database : Database) (ruleRow : Row) (floor : Decimal) : Prop :=
  ∃ condition, (database.cell "Ablehnungsregel" "R_Betrag" ruleRow).value = optionalValue condition ∧
    AmountRule.ofText (condition.getD "") = .ok (.atLeast floor)

/-- Beyond the requested amount a passed rule can only be violated by a floor in between. -/
theorem violates_iff_floor_between {database : Database} {request : Request}
    (passed : (checkRules database request).outcome = .ok ())
    {ruleRow contractRow customerRow : Row}
    (joins : database.Joins request.coverageType request.contract ruleRow contractRow customerRow)
    (amount : Decimal) :
    Violates (database.storedRule ruleRow contractRow customerRow) amount ↔
      ∃ floor, HasFloor database ruleRow floor ∧ floor.atMost request.amount = false ∧
        floor.atMost amount = true := by
  obtain ⟨dated, decodes, ageApart, amountPasses⟩ := storedFailure?_eq_none (joined_passes passed joins)
  obtain ⟨rule, read, unsatisfied⟩ := AmountRule.violated_eq_ok.mp amountPasses
  obtain ⟨evaluation, evaluates, _, violated⟩ :=
    RejectionRule.outcome_evaluate_of_ok read dated.customerAge amount
  rw [ageApart, Bool.false_or] at violated
  constructor
  · -- The age does not change with the amount, so only the amount condition can match now.
    rintro ⟨other, otherEvaluation, decoded, otherEvaluates, isViolated⟩
    rw [decode_eq_ok.mpr decodes] at decoded
    cases decoded
    rw [evaluates] at otherEvaluates
    cases otherEvaluates
    rw [violated] at isViolated
    obtain ⟨floor, rfl, reached⟩ := AmountRule.isSatisfiedBy_iff.mp isViolated
    exact ⟨floor, ⟨dated.rule.amountRule, decodes.amountCondition, read⟩, unsatisfied, reached⟩
  · rintro ⟨floor, ⟨condition, held, floorRead⟩, _, reached⟩
    have same := optionalValue_inj (held.symm.trans decodes.amountCondition)
    rw [same] at floorRead
    have floorRule : rule = .atLeast floor := by
      have sameRead := read.symm.trans floorRead
      simpa using sameRead
    refine ⟨dated, evaluation, decode_eq_ok.mpr decodes, evaluates, ?_⟩
    rw [violated]
    exact AmountRule.isSatisfiedBy_iff.mpr ⟨floor, floorRule, reached⟩

theorem ledgerAmount?_of_records {database : Database} {request : Request} {row : Row}
    (records : Records database request row) :
    ledgerAmount? database row = keptAmount? database request.amount := by
  obtain ⟨table, found, holds⟩ := records
  obtain ⟨index, column, located, atIndex, held⟩ :=
    holds ("Deckungsbetrag", .text request.amount.toText) (by simp [coverageRow])
  simp [ledgerAmount?, keptAmount?, found, located, atIndex, held]

theorem ledgerAmount?_of_grown {before after : Database} {added : List Row} {table : Table}
    (found : before.table? ledgerName = some table)
    (grown : Database.Grown ledgerName before after added) (row : Row) :
    ledgerAmount? after row = ledgerAmount? before row := by
  obtain ⟨changed, changedFound, ⟨used, same⟩, _⟩ := grown.rows table found
  have columns : changed.columns = table.columns := by rw [same]
  simp [ledgerAmount?, found, changedFound, columns]

/-- A persisted request passed its rules, and its row is read as the amount that the ledger keeps. -/
theorem ledgerAmount?_of_created {database : Database} {request : Request} {on : Date}
    {coverage : Coverage} {row : Row}
    (created : (createCoverage database request on).result.outcome = .ok coverage)
    (grown : Database.Grown ledgerName database (createCoverage database request on).database [row]) :
    (checkRules database request).outcome = .ok () ∧
      ledgerAmount? (createCoverage database request on).database row =
        keptAmount? database request.amount := by
  rcases createCoverage_cases database request on with
    ⟨failure, failed, _⟩ | ⟨passed, _, other, records, otherGrown⟩
  · simp [failed] at created
  · have same := Database.Grown.row_eq grown otherGrown
    subst same
    have ⟨table, found, _⟩ := records
    refine ⟨(runChecks_ok_iff.mp passed).2, ?_⟩
    rw [ledgerAmount?_of_grown found grown, ledgerAmount?_of_records records]

/-- What the ledger keeps of a request is admitted by the rules exactly if the request is not
persisted, or no floor of a rule lies above the requested amount and not above the kept one. -/
theorem keptAmountAdmitted_iff (database : Database) (request : Request) (on : Date) :
    KeptAmountAdmitted database request on ↔
      (∀ coverage, (createCoverage database request on).result.outcome ≠ .ok coverage) ∨
        ∀ kept, keptAmount? database request.amount = some kept →
          ∀ ruleRow contractRow customerRow,
            database.Joins request.coverageType request.contract ruleRow contractRow customerRow →
            ∀ floor, HasFloor database ruleRow floor →
              floor.atMost request.amount = true ∨ floor.atMost kept = false := by
  constructor
  · intro admitted
    rcases createCoverage_cases database request on with
      ⟨failure, failed, _⟩ | ⟨_, created, row, records, grown⟩
    · left
      intro coverage
      simp [failed]
    · right
      intro kept held ruleRow contractRow customerRow joins floor hasFloor
      obtain ⟨passed, read⟩ := ledgerAmount?_of_created created grown
      have apart := admitted _ row kept created grown (read.trans held) ruleRow contractRow
        customerRow joins
      cases above : floor.atMost request.amount with
      | true => exact Or.inl rfl
      | false =>
          cases reached : floor.atMost kept with
          | false => exact Or.inr rfl
          | true =>
              have violates := (violates_iff_floor_between passed joins kept).mpr
                ⟨floor, hasFloor, above, reached⟩
              exact absurd violates apart
  · rintro (refused | apart) coverage row kept created grown read ruleRow contractRow customerRow
      joins violates
    · exact absurd created (refused coverage)
    · obtain ⟨passed, same⟩ := ledgerAmount?_of_created created grown
      obtain ⟨floor, hasFloor, above, reached⟩ :=
        (violates_iff_floor_between passed joins kept).mp violates
      rcases apart kept (same.symm.trans read) ruleRow contractRow customerRow joins floor hasFloor
        with below | unreached
      · simp [above] at below
      · simp [reached] at unreached

def ruleFromTenThousand : Row := [.integer 7, .integer 1, .text ">=10000", .null]

def portfolioWithFloor : Database := Sample.singleContract 1 [ruleFromTenThousand]

def requestBelowFloor : Request :=
  { Sample.request with amount := Sample.belowTenThousand }

theorem not_keptAmountAdmitted_below_floor :
    ¬KeptAmountAdmitted portfolioWithFloor requestBelowFloor Sample.day := by
  intro admitted
  rcases createCoverage_cases portfolioWithFloor requestBelowFloor Sample.day with
    ⟨failure, failed, _⟩ | ⟨_, created, row, _, grown⟩
  · have persisted : (createCoverage portfolioWithFloor requestBelowFloor
        Sample.day).result.outcome = .ok (Coverage.ofRequest requestBelowFloor) := by
      decide +kernel
    rw [failed] at persisted
    cases persisted
  · obtain ⟨passed, read⟩ := ledgerAmount?_of_created created grown
    have kept : keptAmount? portfolioWithFloor requestBelowFloor.amount =
        some Sample.tenThousand := by decide +kernel
    have joins : portfolioWithFloor.Joins requestBelowFloor.coverageType requestBelowFloor.contract
        ruleFromTenThousand [.integer 100, .text "2025-06-01", .integer 1, .integer 1]
        [.integer 1, .text "Muster", .text "1980-03-01"] := by
      constructor <;> decide +kernel
    have hasFloor : HasFloor portfolioWithFloor ruleFromTenThousand Sample.tenThousand :=
      ⟨some ">=10000", by decide +kernel, by decide +kernel⟩
    have violates := (violates_iff_floor_between passed joins Sample.tenThousand).mpr
      ⟨Sample.tenThousand, hasFloor, by decide, by decide⟩
    exact admitted _ row Sample.tenThousand created grown (read.trans kept) _ _ _ joins violates

end Underwriting.Gate
