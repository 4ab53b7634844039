import Underwriting.Proofs.Gate.Ledger
import Underwriting.Proofs.Store.KeptAmount
import Underwriting.Store.Sample

/-!
The returned coverage against the row that was persisted. The coverage is made of the request, and the
row of what the columns of the ledger make of it; a reader of the ledger sees the coverage's numbers if
the columns keep whole numbers, and its amount if the column of amounts keeps its value.
-/

namespace Underwriting.Gate

open Store

def ledgerHolding? (database : Database) (row : Row) : Option Holding := do
  let table ← database.table? ledgerName
  let contract ← columnIndex? table.columns "Vertrag_FK"
  let coverageType ← columnIndex? table.columns "Deckungsart_FK"
  let amount ← columnIndex? table.columns "Deckungsbetrag"
  Holding.ofValues? (row.valueAt contract) (row.valueAt coverageType) (row.valueAt amount)

def ShowsCoverage (holding : Holding) (coverage : Coverage) : Prop :=
  holding.contract = coverage.contract.number ∧
    holding.coverageType = coverage.coverageType.number ∧
    ∃ kept, Decimal.ofText holding.amount = .ok kept ∧ kept.sameValue coverage.amount = true

/-- What is reported as persisted is what a reader of the ledger sees in its one new row. -/
def RecordPersisted (database : Database) (request : Request) (on : Date) : Prop :=
  ∀ coverage, (createCoverage database request on).result.outcome = .ok coverage →
    ∃ row holding,
      Database.Grown ledgerName database (createCoverage database request on).database [row] ∧
        ledgerHolding? (createCoverage database request on).database row = some holding ∧
        ShowsCoverage holding coverage

def ledgerAffinity? (database : Database) (name : String) : Option Affinity := do
  let table ← database.table? ledgerName
  let index ← columnIndex? table.columns name
  let column ← table.columns[index]?
  return column.affinity

def keptHolding? (database : Database) (request : Request) : Option Holding := do
  let contract ← ledgerAffinity? database "Vertrag_FK"
  let coverageType ← ledgerAffinity? database "Deckungsart_FK"
  let listed ← ledgerAffinity? database "Deckungsbetrag"
  Holding.ofValues? ((Value.integer request.contract.number).stored contract)
    ((Value.integer request.coverageType.number).stored coverageType)
    ((Value.text request.amount.toText).stored listed)

def KeepsNumbers (affinity : Affinity) : Prop := affinity ≠ .text ∧ affinity ≠ .real

def LedgerKeeps (database : Database) (amount : Decimal) : Prop :=
  ∃ contract coverageType listed,
    ledgerAffinity? database "Vertrag_FK" = some contract ∧
      ledgerAffinity? database "Deckungsart_FK" = some coverageType ∧
      ledgerAffinity? database "Deckungsbetrag" = some listed ∧
      KeepsNumbers contract ∧ KeepsNumbers coverageType ∧ listed.Keeps amount

theorem stored_integer_iff {affinity : Affinity} {number other : Int64} :
    (Value.integer number).stored affinity = .integer other ↔
      KeepsNumbers affinity ∧ number = other := by
  cases affinity <;>
    simp [KeepsNumbers, Value.stored, Value.toTextual, Value.toNumeric, Value.preferInteger,
      Value.toReal]

theorem ofValues?_eq_some_iff {contract coverageType amount : Value} {holding : Holding} :
    Holding.ofValues? contract coverageType amount = some holding ↔
      contract = .integer holding.contract ∧ coverageType = .integer holding.coverageType ∧
        amount.castText? = some holding.amount ∧ amount.className = holding.className := by
  obtain ⟨_, _, _, _⟩ := holding
  unfold Holding.ofValues?
  split
  · rename_i cast
    simp only [cast, Option.some.injEq, Holding.mk.injEq, Value.integer.injEq]
    tauto
  · rename_i other
    refine iff_of_false (by simp) ?_
    rintro ⟨rfl, rfl, cast, _⟩
    exact other _ _ _ rfl rfl cast

theorem exists_kept_iff (database : Database) (request : Request) :
    (∃ holding, keptHolding? database request = some holding ∧
        ShowsCoverage holding (Coverage.ofRequest request)) ↔
      LedgerKeeps database request.amount := by
  simp only [keptHolding?, LedgerKeeps, Option.bind_eq_bind, Option.bind_eq_some_iff,
    ofValues?_eq_some_iff, stored_integer_iff, ← showsAmount_stored_iff]
  constructor
  · rintro ⟨holding, ⟨contract, contractFound, coverageType, typeFound, listed, listedFound,
      contractKept, typeKept, cast, _⟩, _, _, kept, read, same⟩
    exact ⟨contract, coverageType, listed, contractFound, typeFound, listedFound, contractKept.1,
      typeKept.1, holding.amount, kept, cast, read, Decimal.sameValue_iff.mp same⟩
  · rintro ⟨contract, coverageType, listed, contractFound, typeFound, listedFound, contractKept,
      typeKept, content, kept, cast, read, same⟩
    refine ⟨⟨request.contract.number, request.coverageType.number, _, content⟩,
      ⟨contract, contractFound, coverageType, typeFound, listed, listedFound, ⟨contractKept, rfl⟩,
        ⟨typeKept, rfl⟩, cast, rfl⟩, rfl, rfl, kept, read, ?_⟩
    exact Decimal.sameValue_iff.mpr same

theorem ledgerHolding?_of_records {database : Database} {request : Request} {row : Row}
    (records : Records database request row) :
    ledgerHolding? database row = keptHolding? database request := by
  obtain ⟨table, found, holds⟩ := records
  obtain ⟨_, contract, contractLocated, contractAt, contractHeld⟩ :=
    holds ("Vertrag_FK", .integer request.contract.number) (by simp [coverageRow])
  obtain ⟨_, coverageType, typeLocated, typeAt, typeHeld⟩ :=
    holds ("Deckungsart_FK", .integer request.coverageType.number) (by simp [coverageRow])
  obtain ⟨_, listed, amountLocated, amountAt, amountHeld⟩ :=
    holds ("Deckungsbetrag", .text request.amount.toText) (by simp [coverageRow])
  simp [ledgerHolding?, keptHolding?, ledgerAffinity?, found, contractLocated, contractAt,
    contractHeld, typeLocated, typeAt, typeHeld, amountLocated, amountAt, amountHeld]

theorem ledgerHolding?_of_grown {before after : Database} {added : List Row} {table : Table}
    (found : before.table? ledgerName = some table)
    (grown : Database.Grown ledgerName before after added) (row : Row) :
    ledgerHolding? after row = ledgerHolding? before row := by
  obtain ⟨changed, changedFound, ⟨used, same⟩, _⟩ := grown.rows table found
  have columns : changed.columns = table.columns := by rw [same]
  simp [ledgerHolding?, found, changedFound, columns]

/-- A persisted request adds one row, in which a reader sees what the columns keep of the request. -/
theorem created_holding {database : Database} {request : Request} {on : Date} {coverage : Coverage}
    (created : (createCoverage database request on).result.outcome = .ok coverage) :
    coverage = Coverage.ofRequest request ∧
      ∃ row, Database.Grown ledgerName database (createCoverage database request on).database [row] ∧
        ledgerHolding? (createCoverage database request on).database row =
          keptHolding? database request := by
  rcases createCoverage_cases database request on with
    ⟨failure, failed, _⟩ | ⟨_, persisted, row, records, grown⟩
  · simp [failed] at created
  · have ⟨table, found, _⟩ := records
    refine ⟨Except.ok.inj (created.symm.trans persisted), row, grown, ?_⟩
    rw [ledgerHolding?_of_grown found grown, ledgerHolding?_of_records records]

/-- The returned coverage is what was persisted exactly if nothing was, or the columns of the ledger
keep the two numbers and the value of the amount. -/
theorem recordPersisted_iff (database : Database) (request : Request) (on : Date) :
    RecordPersisted database request on ↔
      (∀ coverage, (createCoverage database request on).result.outcome ≠ .ok coverage) ∨
        LedgerKeeps database request.amount := by
  rw [← exists_kept_iff]
  constructor
  · intro persisted
    by_cases refused : ∀ coverage, (createCoverage database request on).result.outcome ≠ .ok coverage
    · exact Or.inl refused
    · obtain ⟨coverage, created⟩ := not_forall_not.mp refused
      obtain ⟨rfl, other, otherGrown, kept⟩ := created_holding created
      obtain ⟨row, holding, grown, held, shows⟩ := persisted _ created
      have same := Database.Grown.row_eq grown otherGrown
      subst same
      exact Or.inr ⟨holding, kept.symm.trans held, shows⟩
  · rintro (refused | ⟨holding, kept, shows⟩) coverage created
    · exact absurd created (refused coverage)
    · obtain ⟨rfl, row, grown, held⟩ := created_holding created
      exact ⟨row, holding, grown, held.trans kept, shows⟩

def requestBelowListed : Request :=
  { Sample.request with amount := Sample.belowTenThousand }

theorem not_recordPersisted_below_listed :
    ¬RecordPersisted (Sample.singleContract 1 []) requestBelowListed Sample.day := by
  intro persisted
  have created : (createCoverage (Sample.singleContract 1 []) requestBelowListed
      Sample.day).result.outcome = .ok (Coverage.ofRequest requestBelowListed) := by decide +kernel
  have kept : keptHolding? (Sample.singleContract 1 []) requestBelowListed =
      some ⟨100, 7, "integer", "10000"⟩ := by decide +kernel
  obtain ⟨row, holding, grown, held, _, _, read, readAmount, same⟩ := persisted _ created
  obtain ⟨_, other, otherGrown, otherHeld⟩ := created_holding created
  have sameRow := Database.Grown.row_eq grown otherGrown
  subst sameRow
  rw [otherHeld, kept, Option.some.injEq] at held
  subst held
  have tenThousand : Decimal.ofText "10000" = .ok Sample.tenThousand := by decide +kernel
  rw [tenThousand, Except.ok.injEq] at readAmount
  subst readAmount
  exact absurd same (by decide)

end Underwriting.Gate
