import Underwriting.Exchange.Records
import Underwriting.Gate.Doctor
import Underwriting.Gate.Rules

/-!
Rule conditions, evaluations and reports as JSON. A condition is an object with its operator and, if
it has one, its threshold; an evaluation has an anomaly only if the age condition could not be read.
-/

namespace Underwriting

namespace Exchange

def condition (operator : String) (threshold : Option Json) : Json :=
  .object (("op", .text operator) :: threshold.toList.map fun value => ("threshold", value))

def wholeThreshold (operator : String) (threshold : Int32) : Json :=
  condition operator (some (.number threshold.toInt))

end Exchange

open Exchange

def AgeRule.toJson : AgeRule → Json
  | .unrestricted => condition "unrestricted" none
  | .atLeast threshold => wholeThreshold "at_least" threshold
  | .above threshold => wholeThreshold "above" threshold
  | .atMost threshold => wholeThreshold "at_most" threshold
  | .below threshold => wholeThreshold "below" threshold
  | .exactly threshold => wholeThreshold "exactly" threshold

def AmountRule.toJson : AmountRule → Json
  | .unrestricted => condition "unrestricted" none
  | .atLeast threshold => condition "at_least" (some threshold.toJson)
  | .unrecognized text => condition "unrecognized" (some (.text text))

def Evaluation.toJson (evaluation : Evaluation) : Json :=
  .object ([("sequence", .number evaluation.sequence.toInt),
    ("age_rule", (evaluation.ageRule.map AgeRule.toJson).getD .null),
    ("amount_rule", evaluation.amountRule.toJson),
    ("age_satisfied", .flag evaluation.ageSatisfied),
    ("amount_satisfied", .flag evaluation.amountSatisfied)] ++
    evaluation.ageAnomaly.toList.map fun anomaly => ("age_anomaly", .text anomaly))

namespace Gate

def RuleReport.toJson (report : RuleReport) : Json :=
  .object [("coverage_type_id", report.coverageType.toJson),
    ("customer_age", (report.customerAge.map Json.number).getD .null),
    ("evaluations", .list (report.evaluations.map Evaluation.toJson))]

def TableStatus.toJson (status : TableStatus) : Json :=
  .object [("name", .text status.name), ("required", .flag status.required),
    ("present", .flag status.present),
    ("rows", (status.rows.map fun count => Json.number count).getD .null)]

def DoctorReport.members (report : DoctorReport) : List (String × Json) :=
  [("schema", .text DoctorReport.schemaName),
    ("schema_version", .number DoctorReport.schemaVersion),
    ("database", .text report.database)]

def DoctorReport.toJson (report : DoctorReport) (engineVersion : Option String) : Json :=
  .object (report.members ++
    engineVersion.toList.map (fun version => ("sqlite_version", .text version)) ++
    [("tables", .list (report.tables.map TableStatus.toJson))])

end Gate

end Underwriting
