import Underwriting.Proofs.Gate.Outcome
import Underwriting.Proofs.Store.Answers

/-!
Stored rules and what they decode to. A rule can be used if its number is whole, its conditions are
texts or null and its dates are dates; checking the rules of a request passes exactly those requests
that no joined rule fails.
-/

namespace Underwriting.Gate

open Store

def optionalValue : Option String → Value
  | none => .null
  | some content => .text content

theorem optionalValue_inj {first second : Option String}
    (same : optionalValue first = optionalValue second) : first = second := by
  cases first <;> cases second <;> simp_all [optionalValue]

theorem wholeNumber_eq_ok {index : Nat} {output : Output} {number : Int64} :
    Decoding.wholeNumber index output = .ok number ↔ output.value = .integer number := by
  unfold Decoding.wholeNumber
  cases output.value <;> simp

theorem optionalText_eq_ok {index : Nat} {output : Output} {content : Option String} :
    Decoding.optionalText index output = .ok content ↔ output.value = optionalValue content := by
  unfold Decoding.optionalText
  cases output.value <;> cases content <;> simp [optionalValue]

def IsDate (value : Value) (date : Date) : Prop :=
  ∃ content, value = .text content ∧ Date.ofText .compact content = .ok date

theorem date_eq_ok {index : Nat} {output : Output} {date : Date} :
    Decoding.date index output = .ok date ↔ IsDate output.value date := by
  unfold Decoding.date IsDate
  cases output.value with
  | text content => cases read : Date.ofText .compact content <;> simp [read]
  | null => simp
  | integer number => simp
  | real number => simp
  | blob content => simp

structure Decodes (stored : StoredRule) (dated : DatedRule) : Prop where
  sequence : stored.sequence.value = .integer dated.rule.sequence
  ageRule : stored.ageRule.value = optionalValue dated.rule.ageRule
  amountRule : stored.amountRule.value = optionalValue dated.rule.amountRule
  contractStart : IsDate stored.contractStart.value dated.contractStart
  birthDate : IsDate stored.birthDate.value dated.birthDate

theorem decode_eq_ok {stored : StoredRule} {dated : DatedRule} :
    decode stored = .ok dated ↔ Decodes stored dated := by
  unfold decode
  simp only [bind_eq_ok, wholeNumber_eq_ok, optionalText_eq_ok, date_eq_ok, pure, Except.pure,
    Except.ok.injEq]
  constructor
  · rintro ⟨sequence, sequenceHeld, ageRule, ageHeld, amountRule, amountHeld, start, startHeld, birth,
      birthHeld, rfl⟩
    exact ⟨sequenceHeld, ageHeld, amountHeld, startHeld, birthHeld⟩
  · intro decodes
    exact ⟨_, decodes.sequence, _, decodes.ageRule, _, decodes.amountRule, _, decodes.contractStart,
      _, decodes.birthDate, rfl⟩

theorem Decodes.amountCondition {database : Database} {ruleRow contractRow customerRow : Row}
    {dated : DatedRule}
    (decodes : Decodes (database.storedRule ruleRow contractRow customerRow) dated) :
    (database.cell "Ablehnungsregel" "R_Betrag" ruleRow).value =
      optionalValue dated.rule.amountRule := by
  rw [← Database.value_output]
  exact decodes.amountRule

theorem storedFailure?_of_decodes {stored : StoredRule} {dated : DatedRule}
    (decodes : Decodes stored dated) (request : Request) :
    storedFailure? request stored = dated.failure? request := by
  simp [storedFailure?, decode_eq_ok.mpr decodes]

theorem failure?_eq_none_iff {request : Request} {dated : DatedRule} :
    dated.failure? request = none ↔
      dated.rule.matchesAge dated.customerAge = false ∧
        AmountRule.violated dated.rule.amountText request.amount = .ok false := by
  unfold DatedRule.failure? AmountRule.violated
  cases AmountRule.ofText dated.rule.amountText with
  | error fault => simp [Except.map]
  | ok amountRule => simp [Except.map]

theorem storedFailure?_eq_none {request : Request} {stored : StoredRule}
    (passes : storedFailure? request stored = none) :
    ∃ dated, Decodes stored dated ∧ dated.rule.matchesAge dated.customerAge = false ∧
      AmountRule.violated dated.rule.amountText request.amount = .ok false := by
  cases decoded : decode stored with
  | error fault => simp [storedFailure?, decoded] at passes
  | ok dated =>
      have decodes := decode_eq_ok.mp decoded
      rw [storedFailure?_of_decodes decodes, failure?_eq_none_iff] at passes
      exact ⟨dated, decodes, passes⟩

theorem mem_rejectionRules {database : Database} {coverageType : CoverageTypeId}
    {contract : ContractId} {found : List StoredRule}
    (answered : Query.rejectionRules database coverageType contract = .ok found)
    {stored : StoredRule} :
    stored ∈ found ↔ stored ∈ database.joinedRules coverageType contract := by
  obtain ⟨met, same, rfl⟩ := Database.rejectionRules_ok answered
  exact (List.mergeSort_perm met _).mem_iff.trans same.mem_iff

/-- The rules of a request pass exactly if the store finds them and no joined rule fails. -/
theorem checkRules_ok_iff {database : Database} {request : Request} :
    (checkRules database request).outcome = .ok () ↔
      (∃ found, Query.rejectionRules database request.coverageType request.contract = .ok found) ∧
        ∀ stored ∈ database.joinedRules request.coverageType request.contract,
          storedFailure? request stored = none := by
  constructor
  · intro passed
    obtain ⟨found, answered, passes⟩ := checkRules_ok passed
    refine ⟨⟨found, answered⟩, ?_⟩
    intro stored joined
    exact passes stored ((mem_rejectionRules answered).mpr joined)
  · rintro ⟨⟨found, answered⟩, passes⟩
    rw [outcome_checkRules_of_ok answered, outcomeOf_eq_ok_iff, List.findSome?_eq_none_iff]
    intro stored member
    exact passes stored ((mem_rejectionRules answered).mp member)

theorem joined_passes {database : Database} {request : Request}
    (passed : (checkRules database request).outcome = .ok ())
    {ruleRow contractRow customerRow : Row}
    (joins : database.Joins request.coverageType request.contract ruleRow contractRow customerRow) :
    storedFailure? request (database.storedRule ruleRow contractRow customerRow) = none := by
  apply (checkRules_ok_iff.mp passed).2
  exact Database.mem_joinedRules.mpr ⟨ruleRow, contractRow, customerRow, joins, rfl⟩

end Underwriting.Gate
