import Underwriting.Store.Database

/-!
The coverages that a database holds, as a reader of the table sees them: the two numbers and the
stored amount, whose text is that of the stored value and not of the amount that was asked for.
-/

namespace Underwriting.Store

namespace Value

def castText? : Value → Option String
  | .null => none
  | .integer number => some (Text.integerText number.toInt)
  | .real number => some (realText number)
  | .text content => some content
  | .blob content => String.fromUTF8? ⟨content.toArray⟩

def className : Value → String
  | .null => "null"
  | .integer _ => "integer"
  | .real _ => "real"
  | .text _ => "text"
  | .blob _ => "blob"

end Value

structure Holding where
  contract : Int64
  coverageType : Int64
  className : String
  amount : String
deriving DecidableEq

namespace Holding

def sortsAtMost (left right : Holding) : Bool :=
  left.contract < right.contract ||
    (left.contract == right.contract && left.coverageType ≤ right.coverageType)

def ofValues? (contract coverageType amount : Value) : Option Holding :=
  match contract, coverageType, amount.castText? with
  | .integer contract, .integer coverageType, some text =>
      some ⟨contract, coverageType, amount.className, text⟩
  | _, _, _ => none

end Holding

def Database.holdings? (database : Database) : Option (List Holding) := do
  let relation ← (database.source "Deckung").toOption
  let contract ← columnIndex? relation.columns "Vertrag_FK"
  let coverageType ← columnIndex? relation.columns "Deckungsart_FK"
  let amount ← columnIndex? relation.columns "Deckungsbetrag"
  let holdings ← relation.rows.mapM fun row =>
    Holding.ofValues? (row.valueAt contract) (row.valueAt coverageType) (row.valueAt amount)
  return holdings.mergeSort Holding.sortsAtMost

end Underwriting.Store
