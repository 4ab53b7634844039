import Mathlib.Order.Bounds.Basic
import Underwriting.Proofs.Gate.Explanation
import Underwriting.Proofs.Gate.RuleRows
import Underwriting.Proofs.Store.SortedRules
import Underwriting.Store.Sample

/-!
Decisions by numbered rules. Where the rules of a coverage type have different whole numbers and the
contract has one customer, neither the check nor the report on the rules depends on the order in which
they were stored: the report has one evaluation for each rule, by increasing numbers, and the check
fails at the least number of a rule that fails the request, whatever rules are stored behind it.
-/

namespace Underwriting.Gate

open Store

theorem findSome?_of_least {request : Request} {found : List StoredRule}
    (sorted : found.Pairwise fun first second => first.key ≤ second.key) {stored : StoredRule}
    (member : stored ∈ found) {failure : Failure}
    (fails : storedFailure? request stored = some failure)
    (least : ∀ other ∈ found, other.key ≤ stored.key →
      other = stored ∨ storedFailure? request other = none) :
    found.findSome? (storedFailure? request) = some failure := by
  induction found with
  | nil => simp at member
  | cons first rest ih =>
      obtain ⟨inFront, sortedRest⟩ := List.pairwise_cons.mp sorted
      rw [List.findSome?_cons]
      rcases List.mem_cons.mp member with rfl | later
      · simp [fails]
      · rcases least first List.mem_cons_self (inFront stored later) with rfl | passes
        · simp [fails]
        · rw [passes]
          exact ih sortedRest later fun other otherLater =>
            least other (List.mem_cons_of_mem first otherLater)

theorem least_of_findSome? {request : Request} {found : List StoredRule}
    (sorted : found.Pairwise fun first second => first.key ≤ second.key) {failure : Failure}
    (fails : found.findSome? (storedFailure? request) = some failure) :
    ∃ stored ∈ found, storedFailure? request stored = some failure ∧
      ∀ other ∈ found, other.key < stored.key → storedFailure? request other = none := by
  obtain ⟨front, stored, back, rfl, failed, passed⟩ := List.findSome?_eq_some_iff.mp fails
  refine ⟨stored, by simp, failed, ?_⟩
  intro other member inFront
  rcases List.mem_append.mp member with before | rest
  · exact passed other before
  · obtain ⟨_, sortedRest, _⟩ := List.pairwise_append.mp sorted
    rcases List.mem_cons.mp rest with rfl | behind
    · exact absurd inFront (lt_irrefl _)
    · exact absurd inFront (not_lt.mpr ((List.pairwise_cons.mp sortedRest).1 other behind))

theorem exists_of_mem_forall₂ {α β : Type} {related : α → β → Prop} {left : List α} {right : List β}
    (paired : List.Forall₂ related left right) {y : β} (member : y ∈ right) :
    ∃ b ∈ left, related b y := by
  induction paired with
  | nil => simp at member
  | @cons a x others _ head _ ih =>
      rcases List.mem_cons.mp member with rfl | later
      · exact ⟨a, List.mem_cons_self, head⟩
      · obtain ⟨b, bMember, found⟩ := ih later
        exact ⟨b, List.mem_cons_of_mem a bMember, found⟩

theorem pairwise_of_forall₂ {α β : Type} {related : α → β → Prop} {before : α → α → Prop}
    {after : β → β → Prop} {left : List α} {right : List β}
    (paired : List.Forall₂ related left right)
    (carried : ∀ a b x y, related a x → related b y → before a b → after x y)
    (inOrder : left.Pairwise before) : right.Pairwise after := by
  induction paired with
  | nil => exact List.Pairwise.nil
  | @cons a x _ others head tail ih =>
      obtain ⟨least, rest⟩ := List.pairwise_cons.mp inOrder
      refine List.pairwise_cons.mpr ⟨?_, ih rest⟩
      intro y member
      obtain ⟨b, bMember, bound⟩ := exists_of_mem_forall₂ tail member
      exact carried a b x y head bound (least b bMember)

section Decisions

variable {database : Database} {request : Request} {contractRow customerRow : Row}

def EvaluatesRow (database : Database) (request : Request) (contractRow customerRow ruleRow : Row)
    (evaluation : Evaluation) : Prop :=
  database.ruleNumber ruleRow = .integer evaluation.sequence ∧
    Evaluates request.amount (database.storedRule ruleRow contractRow customerRow) evaluation

def violatedNumbers (database : Database) (request : Request) (contractRow customerRow : Row) :
    Set Int64 :=
  {number | ∃ ruleRow ∈ database.ruleRows request.coverageType, ∃ evaluation,
    EvaluatesRow database request contractRow customerRow ruleRow evaluation ∧
      evaluation.isViolated = true ∧ evaluation.sequence = number}

def RulesUsable (database : Database) (request : Request) : Prop :=
  ∃ found, Query.rejectionRules database request.coverageType request.contract = .ok found ∧
    ∀ stored ∈ found, unusable? stored = none

/-- The rule of a number fails the request, and no rule of a smaller number does. -/
def FailsAt (database : Database) (request : Request) (contractRow customerRow : Row)
    (number : Int64) (failure : Failure) : Prop :=
  ∃ ruleRow ∈ database.ruleRows request.coverageType,
    database.ruleNumber ruleRow = .integer number ∧
      storedFailure? request (database.storedRule ruleRow contractRow customerRow) = some failure ∧
      ∀ other ∈ database.ruleRows request.coverageType, ∀ smaller,
        database.ruleNumber other = .integer smaller → smaller < number →
        storedFailure? request (database.storedRule other contractRow customerRow) = none

theorem sequence_of_evaluates {stored : StoredRule} {amount : Decimal} {evaluation : Evaluation}
    (evaluates : Evaluates amount stored evaluation) :
    stored.sequence.value = .integer evaluation.sequence := by
  obtain ⟨dated, decoded, outcome⟩ := evaluates
  cases read : AmountRule.ofText dated.rule.amountText with
  | error fault => simp [outcome_evaluated_of_unread read] at outcome
  | ok amountRule =>
      obtain ⟨other, otherOutcome, sequence, _⟩ := outcome_evaluated_of_read read amount
      rw [outcome] at otherOutcome
      cases otherOutcome
      rw [sequence]
      exact (decode_eq_ok.mp decoded).sequence

theorem evaluatesRow_of_evaluates {ruleRow : Row} {evaluation : Evaluation}
    (evaluates : Evaluates request.amount
      (database.storedRule ruleRow contractRow customerRow) evaluation) :
    EvaluatesRow database request contractRow customerRow ruleRow evaluation := by
  refine ⟨?_, evaluates⟩
  rw [← sequence_of_evaluates evaluates]
  simp only [Database.storedRule, Database.ruleNumber, Database.value_output]

theorem evaluates_of_usable {stored : StoredRule} (usable : unusable? stored = none)
    (amount : Decimal) : ∃ evaluation, Evaluates amount stored evaluation := by
  unfold unusable? at usable
  cases decoded : decode stored with
  | error fault => simp [decoded] at usable
  | ok dated =>
      cases read : AmountRule.ofText dated.rule.amountText with
      | error fault => simp [decoded, read] at usable
      | ok amountRule =>
          obtain ⟨evaluation, outcome, _⟩ := outcome_evaluated_of_read read amount
          exact ⟨evaluation, dated, decoded, outcome⟩

theorem key_lt_iff {first second : Row} {smaller greater : Int64}
    (firstHeld : database.ruleNumber first = .integer smaller)
    (secondHeld : database.ruleNumber second = .integer greater) :
    (database.storedRule first contractRow customerRow).key <
        (database.storedRule second contractRow customerRow).key ↔ smaller < greater := by
  rw [Database.key_storedRule, Database.key_storedRule, firstHeld, secondHeld, ← not_le,
    Value.sortKey_integer_le_iff, Int64.not_le]

/-- The report has one evaluation for each rule, by increasing numbers. -/
theorem report_by_increasing_numbers
    (single : database.SingleCustomer request.contract contractRow customerRow)
    (numbered : database.NumberedApart request.coverageType) {report : RuleReport}
    (explained : (explainRules database request).outcome = .ok report) :
    ∃ rows : List Row, rows.Perm (database.ruleRows request.coverageType) ∧
      List.Forall₂ (EvaluatesRow database request contractRow customerRow) rows report.evaluations ∧
      report.evaluations.Pairwise fun first second => first.sequence < second.sequence := by
  obtain ⟨found, answered, evaluates⟩ := explainRules_ok explained
  obtain ⟨_, sorted⟩ := Database.rejectionRules_sorted answered
  -- The found rules, row by row.
  have eachRow : List.Forall₂
      (fun stored ruleRow => stored = database.storedRule ruleRow contractRow customerRow)
      ((database.ruleRows request.coverageType).map fun ruleRow =>
        database.storedRule ruleRow contractRow customerRow)
      (database.ruleRows request.coverageType) := by
    rw [List.forall₂_map_left_iff]
    exact List.forall₂_same.mpr fun _ _ => rfl
  obtain ⟨rows, foundRows, rowsPerm⟩ : (Relation.Comp (List.Forall₂ _) List.Perm) found _ :=
    List.perm_comp_forall₂ (single.found_rows answered) eachRow
  have foundEq : found = rows.map fun ruleRow =>
      database.storedRule ruleRow contractRow customerRow := by
    have pairs := List.forall₂_map_right_iff.mpr foundRows
    rwa [List.forall₂_eq_eq_eq] at pairs
  subst foundEq
  have evaluated := List.forall₂_map_left_iff.mp evaluates
  have paired := evaluated.imp fun _ _ => evaluatesRow_of_evaluates
  refine ⟨rows, rowsPerm, paired, ?_⟩
  have rowsApart : rows.Pairwise fun first second =>
      database.ruleNumber first ≠ database.ruleNumber second :=
    (rowsPerm.pairwise_iff fun differ => differ.symm).mpr numbered.apart
  have inOrder := (List.pairwise_map.mp sorted).and rowsApart
  apply pairwise_of_forall₂ paired ?_ inOrder
  rintro first second firstEvaluation secondEvaluation ⟨firstHeld, _⟩ ⟨secondHeld, _⟩ ⟨below, differ⟩
  rw [firstHeld, secondHeld] at differ
  rw [← key_lt_iff firstHeld secondHeld]
  refine lt_of_le_of_ne below ?_
  intro same
  rw [Database.key_storedRule, Database.key_storedRule, firstHeld, secondHeld] at same
  exact differ (congrArg Value.integer (Value.sortKey_integer_inj same))

/-- Where the rule of a number fails the request first, the check fails with it, whatever rules of
greater numbers are stored in addition. -/
theorem outcome_of_failsAt {number : Int64} {failure : Failure}
    (single : database.SingleCustomer request.contract contractRow customerRow)
    (numbered : database.NumberedApart request.coverageType)
    (fails : FailsAt database request contractRow customerRow number failure) {other : Database}
    (extended : Database.RulesAddedBehind request.coverageType number database other)
    {found : List StoredRule}
    (answered : Query.rejectionRules other request.coverageType request.contract = .ok found) :
    (checkRules other request).outcome = .error failure := by
  obtain ⟨ruleRow, rule, held, failed, least⟩ := fails
  have foundRows := (extended.1.singleCustomer single).found_rows answered
  obtain ⟨_, sorted⟩ := Database.rejectionRules_sorted answered
  have member := foundRows.mem_iff.mpr (List.mem_map_of_mem (extended.ruleRows_subset rule))
  have decides : found.findSome? (storedFailure? request) = some failure := by
    rw [← extended.1.storedRule_eq] at foundRows member
    refine findSome?_of_least sorted member failed ?_
    intro stored storedMember notBehind
    obtain ⟨row, storedRule, rfl⟩ := List.mem_map.mp (foundRows.mem_iff.mp storedMember)
    rcases extended.mem_ruleRows storedRule with before | behind
    · obtain ⟨smaller, smallerHeld⟩ := numbered.whole row before
      rcases notBehind.lt_or_eq with inFront | sameKey
      · exact Or.inr (least row before smaller smallerHeld
          ((key_lt_iff smallerHeld held).mp inFront))
      · rw [Database.key_storedRule, Database.key_storedRule] at sameKey
        rw [numbered.row_eq_of_key before rule sameKey]
        exact Or.inl rfl
    · rw [Database.key_storedRule, Database.key_storedRule, held, extended.1.ruleNumber_eq]
        at notBehind
      exact absurd notBehind (not_le.mpr behind)
  rw [outcome_checkRules_of_ok answered, decides, outcomeOf]

theorem checkRules_error_iff
    (single : database.SingleCustomer request.contract contractRow customerRow)
    (numbered : database.NumberedApart request.coverageType) {found : List StoredRule}
    (answered : Query.rejectionRules database request.coverageType request.contract = .ok found)
    {failure : Failure} :
    (checkRules database request).outcome = .error failure ↔
      ∃ number, FailsAt database request contractRow customerRow number failure := by
  constructor
  · intro fails
    have foundRows := single.found_rows answered
    obtain ⟨_, sorted⟩ := Database.rejectionRules_sorted answered
    have decided : found.findSome? (storedFailure? request) = some failure := by
      rw [outcome_checkRules_of_ok answered] at fails
      cases first : found.findSome? (storedFailure? request) with
      | none => simp [first, outcomeOf] at fails
      | some other => simpa [first, outcomeOf] using fails
    obtain ⟨stored, member, failed, least⟩ := least_of_findSome? sorted decided
    obtain ⟨ruleRow, rule, rfl⟩ := List.mem_map.mp (foundRows.mem_iff.mp member)
    obtain ⟨number, held⟩ := numbered.whole ruleRow rule
    refine ⟨number, ruleRow, rule, held, failed, ?_⟩
    intro other otherRule smaller otherHeld below
    refine least _ (foundRows.mem_iff.mpr (List.mem_map_of_mem otherRule)) ?_
    exact (key_lt_iff otherHeld held).mpr below
  · rintro ⟨number, fails⟩
    exact outcome_of_failsAt single numbered fails (.refl _ _ _) answered

theorem sequence_of_violation {stored : StoredRule} {coverageType : CoverageTypeId}
    {sequence : Int64}
    (fails : storedFailure? request stored = some (.ruleViolation coverageType sequence)) :
    stored.sequence.value = .integer sequence := by
  unfold storedFailure? at fails
  cases decoded : decode stored with
  | error fault => simp [decoded] at fails
  | ok dated =>
      simp only [decoded, DatedRule.failure?] at fails
      split at fails
      · simp at fails
      · split at fails
        · simp only [Option.some.injEq, Failure.ruleViolation.injEq] at fails
          rw [← fails.2]
          exact (decode_eq_ok.mp decoded).sequence
        · simp at fails

theorem FailsAt.number_eq {number : Int64} {coverageType : CoverageTypeId} {sequence : Int64}
    (fails : FailsAt database request contractRow customerRow number
      (.ruleViolation coverageType sequence)) : sequence = number := by
  obtain ⟨ruleRow, _, held, failed, _⟩ := fails
  have same := sequence_of_violation failed
  simp only [Database.storedRule, Database.value_output] at same
  rw [Database.ruleNumber, same] at held
  simpa using held

theorem RulesUsable.exists_evaluatesRow (usable : RulesUsable database request)
    (single : database.SingleCustomer request.contract contractRow customerRow) {ruleRow : Row}
    (rule : ruleRow ∈ database.ruleRows request.coverageType) :
    ∃ evaluation, EvaluatesRow database request contractRow customerRow ruleRow evaluation := by
  obtain ⟨found, answered, allUsable⟩ := usable
  have member := (single.found_rows answered).mem_iff.mpr (List.mem_map_of_mem rule)
  obtain ⟨evaluation, evaluates⟩ := evaluates_of_usable (allUsable _ member) request.amount
  exact ⟨evaluation, evaluatesRow_of_evaluates evaluates⟩

theorem FailsAt.isLeast_violatedNumbers {sequence : Int64}
    (fails : FailsAt database request contractRow customerRow sequence
      (.ruleViolation request.coverageType sequence))
    (usable : RulesUsable database request)
    (single : database.SingleCustomer request.contract contractRow customerRow) :
    IsLeast (violatedNumbers database request contractRow customerRow) sequence := by
  obtain ⟨ruleRow, rule, held, failed, least⟩ := fails
  obtain ⟨evaluation, evaluationHeld, evaluates⟩ := usable.exists_evaluatesRow single rule
  constructor
  · have same : sequence = evaluation.sequence := by simpa [held] using evaluationHeld
    rw [storedFailure?_of_evaluates evaluates] at failed
    refine ⟨ruleRow, rule, evaluation, ⟨evaluationHeld, evaluates⟩, ?_, same.symm⟩
    cases violated : evaluation.isViolated with
    | true => rfl
    | false => simp [violated] at failed
  · rintro smaller ⟨other, otherRule, otherEvaluation, ⟨otherHeld, otherEvaluates⟩, violated, rfl⟩
    refine Int64.not_lt.mp fun below => ?_
    have passes := least other otherRule _ otherHeld below
    rw [storedFailure?_of_evaluates otherEvaluates, violated] at passes
    simp at passes

theorem failsAt_of_isLeast_violatedNumbers {sequence : Int64}
    (least : IsLeast (violatedNumbers database request contractRow customerRow) sequence)
    (usable : RulesUsable database request)
    (single : database.SingleCustomer request.contract contractRow customerRow) :
    FailsAt database request contractRow customerRow sequence
      (.ruleViolation request.coverageType sequence) := by
  obtain ⟨⟨ruleRow, rule, evaluation, ⟨held, evaluates⟩, violated, rfl⟩, lower⟩ := least
  refine ⟨ruleRow, rule, held, ?_, ?_⟩
  · rw [storedFailure?_of_evaluates evaluates, violated]
    rfl
  · intro other otherRule smaller otherHeld below
    obtain ⟨otherEvaluation, evaluationHeld, otherEvaluates⟩ :=
      usable.exists_evaluatesRow single otherRule
    rw [storedFailure?_of_evaluates otherEvaluates]
    cases otherViolated : otherEvaluation.isViolated with
    | false => rfl
    | true =>
        have same : smaller = otherEvaluation.sequence := by simpa [otherHeld] using evaluationHeld
        have notBelow := lower ⟨other, otherRule, otherEvaluation,
          ⟨evaluationHeld, otherEvaluates⟩, otherViolated, same.symm⟩
        exact absurd below (Int64.not_lt.mpr notBelow)

theorem checkRules_violation_iff
    (single : database.SingleCustomer request.contract contractRow customerRow)
    (numbered : database.NumberedApart request.coverageType) (usable : RulesUsable database request)
    (sequence : Int64) :
    (checkRules database request).outcome =
        .error (.ruleViolation request.coverageType sequence) ↔
      IsLeast (violatedNumbers database request contractRow customerRow) sequence := by
  have ⟨_, answered, _⟩ := usable
  rw [checkRules_error_iff single numbered answered]
  constructor
  · rintro ⟨number, fails⟩
    have same := fails.number_eq
    subst same
    exact fails.isLeast_violatedNumbers usable single
  · intro least
    exact ⟨sequence, failsAt_of_isLeast_violatedNumbers least usable single⟩

theorem answered_of_rule_failure {failure : Failure}
    (failed : (checkRules database request).outcome = .error failure)
    (byRule : (∃ coverageType sequence, failure = .ruleViolation coverageType sequence) ∨
      ∃ fault, failure = .dataAccess .checkingRules (.ruleText fault)) :
    ∃ found, Query.rejectionRules database request.coverageType request.contract = .ok found := by
  cases answered : Query.rejectionRules database request.coverageType request.contract with
  | ok found => exact ⟨found, rfl⟩
  | error fault =>
      simp only [checkRules, storedRules, Traced.outcome_bind, answered, Except.bind,
        outcome_answered_error, Traced.outcome_emit, Except.error.injEq] at failed
      subst failed
      simp at byRule

theorem answered_of_sameButRules {other : Database} (same : Database.SameButRules database other)
    {found : List StoredRule}
    (answered : Query.rejectionRules database request.coverageType request.contract = .ok found) :
    ∃ others, Query.rejectionRules other request.coverageType request.contract = .ok others := by
  have alike := same.schema.rejectionRules_answered request.coverageType request.contract
  cases otherAnswered : Query.rejectionRules other request.coverageType request.contract with
  | ok others => exact ⟨others, rfl⟩
  | error fault => simp [answered, otherAnswered, Functor.map, Except.map] at alike

/-- For rules with different whole numbers and a contract with one customer: the order in which the
rules are stored changes neither the check nor the report; the report has one evaluation for each
rule, by increasing numbers; if all rules can be used, the check fails by the least number of a
violated one; and a check that has failed by a rule fails in the same way when more rules of greater
numbers are stored, whatever these hold. -/
theorem decisions_by_rule_numbers
    (single : database.SingleCustomer request.contract contractRow customerRow)
    (numbered : database.NumberedApart request.coverageType) :
    (∀ other, Database.RulesReordered database other →
      checkRules other request = checkRules database request ∧
        explainRules other request = explainRules database request) ∧
    (∀ report, (explainRules database request).outcome = .ok report →
      ∃ rows : List Row, rows.Perm (database.ruleRows request.coverageType) ∧
        List.Forall₂ (EvaluatesRow database request contractRow customerRow) rows
          report.evaluations ∧
        report.evaluations.Pairwise fun first second => first.sequence < second.sequence) ∧
    (RulesUsable database request → ∀ sequence,
      (checkRules database request).outcome =
          .error (.ruleViolation request.coverageType sequence) ↔
        IsLeast (violatedNumbers database request contractRow customerRow) sequence) ∧
    ∀ failure, (checkRules database request).outcome = .error failure →
      ((∃ coverageType sequence, failure = .ruleViolation coverageType sequence) ∨
        ∃ fault, failure = .dataAccess .checkingRules (.ruleText fault)) →
      ∃ number, FailsAt database request contractRow customerRow number failure ∧
        (∀ coverageType sequence, failure = .ruleViolation coverageType sequence →
          sequence = number) ∧
        ∀ other, Database.RulesAddedBehind request.coverageType number database other →
          (checkRules other request).outcome = .error failure := by
  refine ⟨?_, ?_, ?_, ?_⟩
  · intro other reordered
    have same := reordered.rejectionRules_eq single numbered
    exact ⟨by simp only [checkRules, storedRules, same], by simp only [explainRules, same]⟩
  · intro report explained
    exact report_by_increasing_numbers single numbered explained
  · exact checkRules_violation_iff single numbered
  · intro failure failed byRule
    obtain ⟨found, answered⟩ := answered_of_rule_failure failed byRule
    obtain ⟨number, fails⟩ := (checkRules_error_iff single numbered answered).mp failed
    refine ⟨number, fails, ?_, ?_⟩
    · rintro coverageType sequence rfl
      exact fails.number_eq
    · intro other extended
      obtain ⟨others, otherAnswered⟩ := answered_of_sameButRules extended.1 answered
      exact outcome_of_failsAt single numbered fails extended otherAnswered

end Decisions

def ruleOfUnreadableAge : Row := [.integer 7, .integer 1, .text ">=20000", .text "old"]

def violatedRule : Row := [.integer 7, .integer 2, .text ">=5000", .null]

def ruleOfUnreadableAmount : Row := [.integer 7, .integer 3, .text ">=lots", .null]

def portfolioOfUnsortedRules : Database :=
  Sample.singleContract 1 [ruleOfUnreadableAmount, violatedRule, ruleOfUnreadableAge]

def portfolioOfSortedRules : Database :=
  Sample.singleContract 1 [ruleOfUnreadableAge, violatedRule, ruleOfUnreadableAmount]

def singleContractRow : Row := [.integer 100, .text "2025-06-01", .integer 1, .integer 1]

def singleCustomerRow : Row := [.integer 1, .text "Muster", .text "1980-03-01"]

theorem unsortedRules_decide_alike :
    portfolioOfUnsortedRules.SingleCustomer Sample.request.contract singleContractRow
        singleCustomerRow ∧
      portfolioOfUnsortedRules.NumberedApart Sample.request.coverageType ∧
      Database.RulesReordered portfolioOfUnsortedRules portfolioOfSortedRules ∧
      checkRules portfolioOfSortedRules Sample.request =
        checkRules portfolioOfUnsortedRules Sample.request := by
  have single : portfolioOfUnsortedRules.SingleCustomer Sample.request.contract singleContractRow
      singleCustomerRow := ⟨by decide +kernel, by decide +kernel⟩
  have rows : portfolioOfUnsortedRules.ruleRows Sample.request.coverageType =
      [ruleOfUnreadableAmount, violatedRule, ruleOfUnreadableAge] := by decide +kernel
  have numbered : portfolioOfUnsortedRules.NumberedApart Sample.request.coverageType := by
    constructor
    · rw [rows]
      intro row member
      simp only [List.mem_cons, List.not_mem_nil, or_false] at member
      rcases member with rfl | rfl | rfl
      · exact ⟨3, by decide +kernel⟩
      · exact ⟨2, by decide +kernel⟩
      · exact ⟨1, by decide +kernel⟩
    · decide +kernel
  have reordered : Database.RulesReordered portfolioOfUnsortedRules portfolioOfSortedRules :=
    ⟨⟨Database.sameSchema_of_relations rfl (by decide +kernel), by decide +kernel,
      by decide +kernel⟩, by decide +kernel⟩
  have same := (decisions_by_rule_numbers single numbered).1 portfolioOfSortedRules reordered
  exact ⟨single, numbered, reordered, same.1⟩

end Underwriting.Gate
