import Underwriting.Command.Grid
import Underwriting.Command.Perform
import Underwriting.Exchange.Reports

/-!
What commands print: results on the output, and what stands against a request or a database beside
it. In the table of rules the deciding rule is set off from others that would reject as well.
-/

namespace Underwriting.Command

structure Report where
  output : String
  aside : String
deriving DecidableEq

def addReport (result : AddResult) : Report :=
  let start := "Request: " ++ result.request.toText ++ "\nPrice date: " ++
    result.evaluationDate.toText ++ "\n"
  match result.outcome with
  | .added coverage =>
      ⟨start ++ "Added coverage type " ++ coverage.coverageType.toText ++ " with amount " ++
        coverage.amount.toText ++ " to contract " ++ coverage.contract.toText ++ "\n", ""⟩
  | .validated => ⟨start ++ "Dry run: all checks passed, nothing written\n", ""⟩
  | .rejected cause => ⟨start, "Rejected (" ++ cause.kind ++ "): " ++ cause.message ++ "\n"⟩

def addExit (result : AddResult) : Nat :=
  match result.outcome with
  | .rejected _ => Failure.rejectedExit
  | _ => 0

inductive Verdict
  | decides
  | rejects
  | passes
deriving DecidableEq

def Verdict.text : Verdict → String
  | .decides => "REJECT"
  | .rejects => "reject"
  | .passes => "pass"

def verdict (first : Option Int64) (evaluation : Evaluation) : Verdict :=
  if first = some evaluation.sequence then .decides
  else if evaluation.isViolated then .rejects
  else .passes

def ageCell (evaluation : Evaluation) : String :=
  match evaluation.ageRule, evaluation.ageAnomaly with
  | some rule, _ => rule.toText
  | none, some anomaly => anomaly ++ " (ignored)"
  | none, none => "-"

def matchCell (satisfied : Bool) : String := if satisfied then "match" else "-"

def ruleRow (first : Option Int64) (evaluation : Evaluation) : List String :=
  [Text.integerText evaluation.sequence.toInt, ageCell evaluation, evaluation.amountRule.toText,
    matchCell evaluation.ageSatisfied, matchCell evaluation.amountSatisfied,
    (verdict first evaluation).text]

def ruleColumns : List Column :=
  [⟨"LfdNr", .right⟩, ⟨"Age rule", .left⟩, ⟨"Amount rule", .left⟩, ⟨"Age", .centre⟩,
    ⟨"Amount", .centre⟩, ⟨"Result", .centre⟩]

def ruleRows (report : Gate.RuleReport) : List (List String) :=
  report.evaluations.map (ruleRow (report.firstViolation.map (·.sequence)))

def rulesReport (report : Gate.RuleReport) : Report :=
  let start := "Coverage type: " ++ report.coverageType.toText ++ "\n"
  match report.customerAge with
  | none => ⟨start ++ "No rejection rules.\n", ""⟩
  | some age =>
      let grid : Grid := ⟨ruleColumns, ruleRows report, ⟨'│', true⟩⟩
      ⟨start ++ "Customer age at contract start: " ++ Text.integerText age ++ "\n" ++ grid.toText,
        ""⟩

def doctorColumns : List Column :=
  [⟨"Table", .left⟩, ⟨"Present", .centre⟩, ⟨"Rows", .right⟩]

def doctorRow (status : Gate.TableStatus) : List String :=
  match status.rows with
  | some count => [status.name, "✓", toString count]
  | none => [status.name, if status.required then "✗" else "optional", "-"]

def missingText (report : Gate.DoctorReport) : String :=
  if report.isEmptySchema then
    "No tables found. Create the schema and load the seed data first.\n"
  else if report.isHealthy then ""
  else "Missing tables: " ++ ", ".intercalate report.missingTables ++ "\n"

def doctorReport (report : Gate.DoctorReport) (engineVersion : String) (asJson : Bool) : Report :=
  if asJson then ⟨(report.toJson (some engineVersion)).toLines ++ "\n", ""⟩
  else
    let grid : Grid := ⟨doctorColumns, report.tables.map doctorRow, ⟨'┆', false⟩⟩
    ⟨"Database: " ++ report.database ++ "\nSQLite: " ++ engineVersion ++ "\n" ++ grid.toText,
      missingText report⟩

def doctorExit (report : Gate.DoctorReport) : Nat :=
  if report.isHealthy then 0 else Failure.failedExit

end Underwriting.Command
