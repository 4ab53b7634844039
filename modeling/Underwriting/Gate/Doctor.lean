import Underwriting.Gate.Failure
import Underwriting.Store.Database

/-!
The probe of a database: which tables of the schema are there and how many rows they have. The gate
needs all but the table of products; views do not count.
-/

namespace Underwriting.Gate

open Store

def requiredTables : List String :=
  ["Vertrag", "Kunde", "Deckungsart", "Deckungsbetrag", "Deckungspreis", "Ablehnungsregel",
    "Deckung"]

def optionalTables : List String := ["Produkt"]

structure TableStatus where
  name : String
  required : Bool
  rows : Option Nat
deriving DecidableEq

def TableStatus.present (status : TableStatus) : Bool := status.rows.isSome

structure DoctorReport where
  database : String
  tables : List TableStatus
deriving DecidableEq

namespace DoctorReport

def schemaName : String := "coverage-gate.doctor"

def schemaVersion : Nat := 1

def missingTables (report : DoctorReport) : List String :=
  (report.tables.filter fun status => status.required && !status.present).map (·.name)

def isHealthy (report : DoctorReport) : Bool := report.missingTables.isEmpty

def isEmptySchema (report : DoctorReport) : Bool := report.tables.all (!·.present)

end DoctorReport

def tableStatus (database : Database) (required : Bool) (name : String) : TableStatus :=
  ⟨name, required, (database.table? name).map (·.rows.length)⟩

def rowsText : Option Nat → String
  | some count => "Some(" ++ toString count ++ ")"
  | none => "None"

def probedEvent (status : TableStatus) : Event :=
  ⟨.debug, "coverage_validate::doctor", "probed table",
    [⟨"table", .quoted status.name⟩, ⟨"present", .flag status.present⟩,
      .shown "rows" (rowsText status.rows)]⟩

def probeEach : List TableStatus → Check Unit
  | [] => pure ()
  | status :: rest => do
      .emit (probedEvent status)
      probeEach rest

def probeTables (database : Database) : Except Fault (List TableStatus) :=
  if database.access = .unreadable then .error .notADatabase
  else
    .ok (requiredTables.map (tableStatus database true) ++
      optionalTables.map (tableStatus database false))

def probe (database : Database) (name : String) : Check DoctorReport := do
  let tables ← answered .probingSchema (probeTables database)
  probeEach tables
  return ⟨name, tables⟩

end Underwriting.Gate
