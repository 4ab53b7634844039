import Mathlib.Data.List.NodupEquivFin
import Mathlib.Data.List.Permutation
import Underwriting.Command.Report
import Underwriting.Proofs.Gate.RuleOrder

/-!
The column of results in the table of rules. It is to set off the one rule that decides: the first
that is violated. A row is set off by the number of that rule, so this holds exactly where no other
row of the report has the same number; a rule that is not violated is set off too if it has.
-/

namespace Underwriting.Command

open Gate Store

def resultCells (report : RuleReport) : List String :=
  (ruleRows report).map fun cells => cells.getLastD ""

/-- The table sets off the first violated rule and no other row; other violated rules are said to
reject as well, and the rest to pass. -/
structure MarksDeciding (report : RuleReport) : Prop where
  once : (resultCells report).count "REJECT" = if report.evaluations.any (·.isViolated) then 1 else 0
  first : ∀ index, (resultCells report)[index]? = some "REJECT" ↔
    report.evaluations.findIdx? (·.isViolated) = some index
  others : ∀ index, report.evaluations.findIdx? (·.isViolated) ≠ some index →
    (resultCells report)[index]? =
      report.evaluations[index]?.map fun evaluation =>
        if evaluation.isViolated then "reject" else "pass"

def RulesMarked (database : Database) (request : Request) : Prop :=
  ∀ report, (explainRules database request).outcome = .ok report → MarksDeciding report

/-- The number of the first violated rule occurs once. -/
def DecidesAlone (report : RuleReport) : Prop :=
  ∀ decider, report.firstViolation = some decider →
    (report.evaluations.map (·.sequence)).count decider.sequence = 1

theorem resultCells_eq (report : RuleReport) :
    resultCells report = report.evaluations.map fun evaluation =>
      (verdict (report.firstViolation.map (·.sequence)) evaluation).text := by
  simp [resultCells, ruleRows, ruleRow]

theorem getElem?_resultCells (report : RuleReport) (index : Nat) :
    (resultCells report)[index]? = report.evaluations[index]?.map fun evaluation =>
      (verdict (report.firstViolation.map (·.sequence)) evaluation).text := by
  rw [resultCells_eq, List.getElem?_map]

theorem text_eq_deciding_iff {first : Option Int64} {evaluation : Evaluation} :
    (verdict first evaluation).text = "REJECT" ↔ first = some evaluation.sequence := by
  unfold verdict
  by_cases same : first = some evaluation.sequence
  · simp [same, Verdict.text]
  · by_cases violated : evaluation.isViolated
    · simp [same, violated, Verdict.text]
    · simp [same, violated, Verdict.text]

theorem text_of_not_deciding {first : Option Int64} {evaluation : Evaluation}
    (other : (verdict first evaluation).text ≠ "REJECT") :
    (verdict first evaluation).text = if evaluation.isViolated then "reject" else "pass" := by
  have different : first ≠ some evaluation.sequence := fun same =>
    other (text_eq_deciding_iff.mpr same)
  unfold verdict
  rw [if_neg different]
  by_cases violated : evaluation.isViolated
  · rw [if_pos violated, if_pos violated]
    rfl
  · rw [if_neg violated, if_neg violated]
    rfl

theorem count_deciding {report : RuleReport} {decider : Evaluation}
    (found : report.firstViolation = some decider) :
    (resultCells report).count "REJECT" =
      (report.evaluations.map (·.sequence)).count decider.sequence := by
  rw [resultCells_eq, found, List.count_eq_countP, List.count_eq_countP, List.countP_map,
    List.countP_map]
  apply List.countP_congr
  intro evaluation _
  simp only [Function.comp_apply, Option.map_some, beq_iff_eq, text_eq_deciding_iff,
    Option.some.injEq]
  exact eq_comm

theorem count_deciding_of_none {report : RuleReport} (none : report.firstViolation = none) :
    (resultCells report).count "REJECT" = 0 := by
  apply List.count_eq_zero.mpr
  rw [resultCells_eq, none]
  intro member
  obtain ⟨evaluation, _, decides⟩ := List.mem_map.mp member
  cases text_eq_deciding_iff.mp decides

theorem any_isViolated_eq (report : RuleReport) :
    report.evaluations.any (·.isViolated) = report.firstViolation.isSome := by
  rw [RuleReport.firstViolation, Bool.eq_iff_iff, List.find?_isSome, List.any_eq_true]

theorem firstViolation_eq (report : RuleReport) :
    report.firstViolation =
      (report.evaluations.findIdx? (·.isViolated)).bind (report.evaluations[·]?) :=
  List.find?_eq_bind_findIdx?_getElem?

theorem deciding_of_findIdx? {report : RuleReport} {index : Nat}
    (found : report.evaluations.findIdx? (·.isViolated) = some index) :
    (resultCells report)[index]? = some "REJECT" := by
  have decider := firstViolation_eq report
  rw [found, Option.bind_some] at decider
  obtain ⟨inside, _⟩ := List.findIdx?_eq_some_iff_findIdx_eq.mp found
  rw [List.getElem?_eq_getElem inside] at decider
  rw [getElem?_resultCells, List.getElem?_eq_getElem inside, Option.map_some, decider,
    text_eq_deciding_iff.mpr (Option.map_some ..)]

theorem eq_of_count_le_one {α : Type} [DecidableEq α] {element : α} {elements : List α}
    (once : elements.count element ≤ 1) {index other : Nat}
    (holds : elements[index]? = some element) (holdsToo : elements[other]? = some element) :
    index = other := by
  obtain ⟨inside, same⟩ := List.getElem?_eq_some_iff.mp holds
  obtain ⟨otherInside, otherSame⟩ := List.getElem?_eq_some_iff.mp holdsToo
  have notTwice : ¬List.Duplicate element elements := by
    rw [List.duplicate_iff_two_le_count]
    omega
  rw [List.duplicate_iff_exists_distinct_get] at notTwice
  rcases Nat.lt_trichotomy index other with before | equal | behind
  · exact absurd ⟨⟨index, inside⟩, ⟨other, otherInside⟩, before, same.symm, otherSame.symm⟩ notTwice
  · exact equal
  · exact absurd ⟨⟨other, otherInside⟩, ⟨index, inside⟩, behind, otherSame.symm, same.symm⟩ notTwice

theorem count_deciding_of_alone {report : RuleReport} (alone : DecidesAlone report) :
    (resultCells report).count "REJECT" =
      if report.evaluations.any (·.isViolated) then 1 else 0 := by
  rw [any_isViolated_eq]
  cases found : report.firstViolation with
  | none => exact count_deciding_of_none found
  | some decider =>
      rw [count_deciding found]
      exact alone decider found

theorem findIdx?_of_deciding {report : RuleReport} (alone : DecidesAlone report) {index : Nat}
    (decides : (resultCells report)[index]? = some "REJECT") :
    report.evaluations.findIdx? (·.isViolated) = some index := by
  have once : (resultCells report).count "REJECT" ≤ 1 := by
    rw [count_deciding_of_alone alone]
    split <;> omega
  cases found : report.evaluations.findIdx? (·.isViolated) with
  | some other => rw [eq_of_count_le_one once (deciding_of_findIdx? found) decides]
  | none =>
      have decider := firstViolation_eq report
      rw [found, Option.bind_none] at decider
      have absent := List.count_eq_zero.mp (count_deciding_of_none decider)
      exact absurd (List.mem_of_getElem? decides) absent

theorem marksDeciding_iff {report : RuleReport} : MarksDeciding report ↔ DecidesAlone report := by
  constructor
  · intro marks decider found
    rw [← count_deciding found, marks.once, any_isViolated_eq, found]
    rfl
  · intro alone
    refine ⟨count_deciding_of_alone alone, ?_, ?_⟩
    · intro index
      exact ⟨findIdx?_of_deciding alone, deciding_of_findIdx?⟩
    · intro index other
      rw [getElem?_resultCells]
      cases held : report.evaluations[index]? with
      | none => rfl
      | some evaluation =>
          have different : (verdict (report.firstViolation.map (·.sequence)) evaluation).text ≠
              "REJECT" := by
            intro decides
            apply other
            apply findIdx?_of_deciding alone
            rw [getElem?_resultCells, held, Option.map_some, decides]
          rw [Option.map_some, Option.map_some, text_of_not_deciding different]

/-- Where the numbers of the rules differ, the table marks the deciding one. -/
theorem rulesMarked_of_numberedApart {database : Database} {request : Request}
    {contractRow customerRow : Row}
    (single : database.SingleCustomer request.contract contractRow customerRow)
    (numbered : database.NumberedApart request.coverageType) : RulesMarked database request := by
  intro report explained
  obtain ⟨_, _, _, increasing⟩ := report_by_increasing_numbers single numbered explained
  apply marksDeciding_iff.mpr
  intro decider found
  have apart : (report.evaluations.map (·.sequence)).Nodup := by
    apply List.pairwise_map.mpr
    exact increasing.imp Int64.ne_of_lt
  have member := List.mem_of_find?_eq_some found
  exact List.count_eq_one_of_mem apart (List.mem_map_of_mem member)

theorem rulesMarked_iff {database : Database} {request : Request} :
    RulesMarked database request ↔
      ∀ report, (explainRules database request).outcome = .ok report → DecidesAlone report := by
  unfold RulesMarked
  simp only [marksDeciding_iff]

def passingRule : Row := [.integer 7, .integer 1, .text ">=20000", .null]

def violatedRuleOfSameNumber : Row := [.integer 7, .integer 1, .text ">=5000", .null]

def portfolioOfRepeatedNumber : Database :=
  Sample.singleContract 1 [passingRule, violatedRuleOfSameNumber]

/-- The rule that is passed is set off with the violated one. -/
theorem not_rulesMarked_of_repeated_number :
    ¬RulesMarked portfolioOfRepeatedNumber Sample.request := by
  have single : portfolioOfRepeatedNumber.SingleCustomer Sample.request.contract singleContractRow
      singleCustomerRow := ⟨by decide +kernel, by decide +kernel⟩
  have rows : portfolioOfRepeatedNumber.ruleRows Sample.request.coverageType =
      [passingRule, violatedRuleOfSameNumber] := by decide +kernel
  obtain ⟨found, answered⟩ : ∃ found, Query.rejectionRules portfolioOfRepeatedNumber
      Sample.request.coverageType Sample.request.contract = .ok found :=
    Database.rejectionRules_answered (by decide +kernel) (by decide +kernel) (by decide +kernel) _ _
  have bothRules := single.found_rows answered
  rw [rows] at bothRules
  -- Either order in which the store may find them has the same cells.
  have cells : (explainRules portfolioOfRepeatedNumber Sample.request).outcome.toOption.map
      resultCells = some ["REJECT", "REJECT"] := by
    rw [outcome_explainRules, answered]
    rcases List.perm_pair.mp bothRules with rfl | rfl
    · decide +kernel
    · decide +kernel
  intro marked
  cases explained : (explainRules portfolioOfRepeatedNumber Sample.request).outcome with
  | error failure => simp [explained, Except.toOption] at cells
  | ok report =>
      have labels : resultCells report = ["REJECT", "REJECT"] := by
        simpa [explained, Except.toOption] using cells
      have once := (marked report explained).once
      rw [labels] at once
      split at once <;> simp at once

end Underwriting.Command
