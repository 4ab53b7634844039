import Underwriting.Calendar.Date
import Underwriting.Coverage
import Underwriting.Store.Schema

/-!
A small portfolio: two products, two customers, three contracts and three coverage types with their
amounts and prices, and no rejection rules.
-/

namespace Underwriting.Store.Sample

def whole (number : Int64) : Value := .integer number

def products : List Row := [[whole 1, .text "P1"], [whole 2, .text "P2"]]

def customers : List Row :=
  [[whole 1, .text "Muster", .text "1980-03-01"], [whole 2, .text "Junior", .text "2000-06-02"]]

def contracts : List Row :=
  [[whole 100, .text "2025-06-01", whole 1, whole 1],
    [whole 101, .text "2025-06-01", whole 1, whole 2],
    [whole 200, .text "2025-06-01", whole 2, whole 1]]

def coverageTypes : List Row := [[whole 7, whole 1], [whole 8, whole 2], [whole 9, whole 1]]

def amounts : List Row :=
  [[whole 1, whole 7, .text "10000.00"], [whole 2, whole 7, .text "5000.00"],
    [whole 3, whole 7, .text "20000.00"], [whole 4, whole 8, .text "10000.00"],
    [whole 5, whole 9, .text "4999.99"], [whole 6, whole 9, .text "5000.00"]]

def prices : List Row :=
  [[whole 1, whole 1, .text "2025-01-01", .text "2025-12-31"],
    [whole 2, whole 2, .text "2000-01-01", .text "2999-12-31"],
    [whole 3, whole 3, .text "2020-01-01", .text "2020-12-31"],
    [whole 4, whole 4, .text "2025-01-01", .text "2025-12-31"],
    [whole 5, whole 5, .text "2025-01-01", .text "2025-12-31"],
    [whole 6, whole 6, .text "2025-01-01", .text "2025-12-31"]]

def filled (database : Database) (table : Table) (rows : List Row) : Database :=
  Schema.withRows database table.name (table.columns.map (·.name)) rows

def database : Database :=
  [(Schema.products, products), (Schema.customers, customers), (Schema.contracts, contracts),
    (Schema.coverageTypes, coverageTypes), (Schema.amounts, amounts), (Schema.prices, prices)].foldl
    (fun database (table, rows) => filled database table rows) Schema.database

def singleContract (customer : Int64) (rules : List Row) : Database :=
  .ofTables
    [{ Schema.products with rows := [[whole 1, .text "P1"]] },
      { Schema.customers with rows := [[whole 1, .text "Muster", .text "1980-03-01"]] },
      { Schema.contracts with rows := [[whole 100, .text "2025-06-01", whole 1, whole customer]] },
      { Schema.coverageTypes with rows := [[whole 7, whole 1]] },
      { Schema.amounts with rows := [[whole 1, whole 7, whole 10000]] },
      { Schema.prices with rows := [[whole 1, whole 1, .text "2025-01-01", .text "2025-12-31"]] },
      { Schema.rejectionRules with rows := rules },
      Schema.coverages]

def tenThousand : Decimal := ⟨false, 10000, 0, by decide, by decide⟩

/-- Just below ten thousand, which is the double nearest to it. -/
def belowTenThousand : Decimal := ⟨false, 999999999999999999, 14, by decide, by decide⟩

def request : Request := ⟨⟨100⟩, ⟨7⟩, tenThousand⟩

def day : Date := ⟨2025, 7, 15, by decide⟩

end Underwriting.Store.Sample
