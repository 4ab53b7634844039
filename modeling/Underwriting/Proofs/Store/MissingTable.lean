import Underwriting.Proofs.Store.Columns
import Underwriting.Proofs.Store.Insertion

/-!
The tables that a statement needs. A statement on a database that can be read fails for the lack of
a table exactly if one of its tables is missing, and names the first of them in the order in which
it looks them up; whatever else is wrong is another fault.
-/

namespace Underwriting.Store

def Database.firstMissing? (database : Database) (tables : List String) : Option String :=
  tables.find? fun name => (database.relation? name).isNone

/-- An answer that fails for the lack of a table as the first missing one of these tables has it. -/
def Needs {α : Type} (database : Database) (tables : List String) (answer : Except Fault α) :
    Prop :=
  ∀ table, answer = .error (.noSuchTable table) ↔ database.firstMissing? tables = some table

theorem Database.firstMissing?_some {database : Database} {tables : List String} {table : String}
    (first : database.firstMissing? tables = some table) :
    table ∈ tables ∧ database.relation? table = none :=
  ⟨List.mem_of_find?_eq_some first, by simpa using List.find?_some first⟩

theorem Database.firstMissing?_isSome_iff {database : Database} {tables : List String} :
    (database.firstMissing? tables).isSome ↔
      ∃ table ∈ tables, database.relation? table = none := by
  simp [firstMissing?, List.find?_isSome]

namespace Needs

variable {α : Type} {database : Database} {tables : List String}

theorem ok (database : Database) (value : α) : Needs database [] (.ok value) := by
  simp [Needs, Database.firstMissing?]

theorem fault {fault : Fault} (other : ∀ table, fault ≠ .noSuchTable table) :
    Needs database [] (.error fault : Except Fault α) := by
  simp [Needs, Database.firstMissing?, other]

theorem source (readable : database.access ≠ .unreadable) {name : String}
    {next : Relation → Except Fault α}
    (others : ∀ relation, Needs database tables (next relation)) :
    Needs database (name :: tables) (database.source name >>= next) := by
  intro table
  unfold Database.source Database.firstMissing?
  rw [if_neg readable, List.find?_cons]
  cases database.relation? name with
  | none => simp [Bind.bind, Except.bind]
  | some relation => exact others relation table

theorem bind {β : Type} {first : Except Fault α} {next : α → Except Fault β}
    (needs : Needs database tables first) (others : ∀ value, Needs database [] (next value)) :
    Needs database tables (first >>= next) := by
  intro table
  rw [← needs table]
  cases first with
  | ok value => simpa [Database.firstMissing?, Bind.bind, Except.bind] using others value table
  | error fault => simp [Bind.bind, Except.bind]

theorem locate {statement : Statement} {relation : Relation} {qualifier column : String}
    {next : Statement.Located → Except Fault α}
    (others : ∀ located, Needs database [] (next located)) :
    Needs database [] (statement.locate relation qualifier column >>= next) := by
  refine bind ?_ others
  unfold Statement.locate
  split
  · exact ok database _
  · exact fault (by simp)

theorem locateJoined {relation : Relation} {qualifier column : String}
    {next : Statement.Located → Except Fault α}
    (others : ∀ located, Needs database [] (next located)) :
    Needs database [] (Statement.locateJoined relation qualifier column >>= next) := by
  refine bind ?_ others
  unfold Statement.locateJoined
  split
  · exact ok database _
  · exact fault (by simp)

end Needs

namespace Table

theorem numberedRow_needs (database : Database) (base : Table) (row : Row) :
    Needs database [] (base.numberedRow row) := by
  unfold numberedRow
  split
  · split
    · exact Needs.ok database row
    · split
      · unfold Table.nextNumber
        split
        · exact Needs.ok database _
        · split
          · exact Needs.fault (by simp)
          · exact Needs.ok database _
      · exact Needs.ok database row
      · exact Needs.fault (by simp)
  · exact Needs.ok database row

/-- A table that is there refuses a row for its keys and its values only. -/
theorem insert_needs (database : Database) (base : Table)
    (assignments : List (String × Value)) : Needs database [] (base.insert assignments) := by
  unfold insert
  refine Needs.bind (numberedRow_needs database base _) fun row => ?_
  split
  · exact Needs.ok database _
  · split
    · exact Needs.fault (by simp)
    · exact Needs.fault (by simp)
    · exact Needs.ok database _

end Table

namespace Database

variable {database : Database}

theorem contractExists_needs (readable : database.access ≠ .unreadable) (contract : ContractId) :
    Needs database ["Vertrag"] (Query.contractExists database contract) := by
  unfold Query.contractExists
  refine Needs.source readable fun contracts => ?_
  exact Needs.locate fun id => Needs.ok database _

theorem coverageTypeExists_needs (readable : database.access ≠ .unreadable)
    (coverageType : CoverageTypeId) :
    Needs database ["Deckungsart"] (Query.coverageTypeExists database coverageType) := by
  unfold Query.coverageTypeExists
  refine Needs.source readable fun types => ?_
  exact Needs.locate fun id => Needs.ok database _

theorem productMatches_needs (readable : database.access ≠ .unreadable) (contract : ContractId)
    (coverageType : CoverageTypeId) :
    Needs database ["Vertrag", "Deckungsart"]
      (Query.productMatches database contract coverageType) := by
  unfold Query.productMatches
  refine Needs.source readable fun contracts => Needs.source readable fun types => ?_
  refine Needs.locate fun contractId => Needs.locate fun typeId => ?_
  exact Needs.locate fun contractProduct => Needs.locate fun typeProduct => Needs.ok database _

theorem amountListed_needs (readable : database.access ≠ .unreadable)
    (coverageType : CoverageTypeId) (amount : Decimal) :
    Needs database ["Deckungsbetrag"] (Query.amountListed database coverageType amount) := by
  unfold Query.amountListed
  refine Needs.source readable fun amounts => ?_
  exact Needs.locate fun type => Needs.locate fun listed => Needs.ok database _

theorem priceValid_needs (readable : database.access ≠ .unreadable)
    (coverageType : CoverageTypeId) (amount : Decimal) (on : Date) :
    Needs database ["Deckungspreis", "Deckungsbetrag"]
      (Query.priceValid database coverageType amount on) := by
  unfold Query.priceValid
  refine Needs.source readable fun prices => Needs.source readable fun amounts => ?_
  refine Needs.locate fun type => Needs.locate fun listed => ?_
  refine Needs.locate fun validFrom => Needs.locate fun validTo => ?_
  exact Needs.locateJoined fun priced => Needs.locateJoined fun id => Needs.ok database _

theorem rejectionRules_needs (readable : database.access ≠ .unreadable)
    (coverageType : CoverageTypeId) (contract : ContractId) :
    Needs database ["Ablehnungsregel", "Vertrag", "Kunde"]
      (Query.rejectionRules database coverageType contract) := by
  unfold Query.rejectionRules
  refine Needs.source readable fun rules => Needs.source readable fun contracts =>
    Needs.source readable fun customers => ?_
  refine Needs.locate fun sequence => Needs.locate fun ageRule => Needs.locate fun amountRule => ?_
  refine Needs.locate fun start => Needs.locate fun birth => Needs.locate fun type => ?_
  refine Needs.locate fun contractId => Needs.locate fun customerId => Needs.locate fun link => ?_
  exact Needs.ok database _

theorem insert_needs (readable : database.access ≠ .unreadable) (name : String)
    (assignments : List (String × Value)) :
    Needs database [name] (database.insert name assignments) := by
  unfold Database.insert
  refine Needs.source readable fun relation => ?_
  split
  · exact Needs.fault (by simp)
  · split
    · exact Needs.fault (by simp)
    · split
      · exact Needs.fault (by simp)
      · exact Needs.bind (Table.insert_needs database _ assignments) fun _ => Needs.ok database _

end Database

end Underwriting.Store
