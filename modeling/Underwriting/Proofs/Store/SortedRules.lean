import Mathlib.Data.List.Perm.Basic
import Underwriting.Proofs.Store.Agreement

/-!
Rejection rules by their numbers. The rules that the store finds are in the order of their numbers,
so where these are different whole numbers and the contract has one customer, the order in which the
rules were stored makes no difference. Rules of greater numbers that are stored in addition are found
behind the others.
-/

namespace Underwriting.Store

def StoredRule.key (stored : StoredRule) : Value.SortKey := stored.sequence.value.sortKey

namespace Database

variable (database : Database)

structure SingleCustomer (contract : ContractId) (contractRow customerRow : Row) : Prop where
  contracts : database.contractRows contract = [contractRow]
  customers : database.customerRows contract = [customerRow]

def ruleNumber (row : Row) : Value := (database.cell "Ablehnungsregel" "LfdNr" row).value

structure NumberedApart (coverageType : CoverageTypeId) : Prop where
  whole : ∀ row ∈ database.ruleRows coverageType,
    ∃ number, database.ruleNumber row = .integer number
  apart : (database.ruleRows coverageType).Pairwise fun first second =>
    database.ruleNumber first ≠ database.ruleNumber second

variable {database}

theorem key_storedRule (ruleRow contractRow customerRow : Row) :
    (database.storedRule ruleRow contractRow customerRow).key =
      (database.ruleNumber ruleRow).sortKey := by
  simp only [StoredRule.key, storedRule, ruleNumber, value_output]

theorem NumberedApart.row_eq {coverageType : CoverageTypeId}
    (numbered : database.NumberedApart coverageType) {first second : Row}
    (firstRule : first ∈ database.ruleRows coverageType)
    (secondRule : second ∈ database.ruleRows coverageType)
    (same : database.ruleNumber first = database.ruleNumber second) : first = second := by
  have symmetric : Std.Symm fun first second : Row =>
      database.ruleNumber first ≠ database.ruleNumber second := ⟨fun _ _ differ => differ.symm⟩
  by_contra different
  exact numbered.apart.forall firstRule secondRule different same

/-- Rules of one place in the order are one rule. -/
theorem NumberedApart.row_eq_of_key {coverageType : CoverageTypeId}
    (numbered : database.NumberedApart coverageType) {first second : Row}
    (firstRule : first ∈ database.ruleRows coverageType)
    (secondRule : second ∈ database.ruleRows coverageType)
    (same : (database.ruleNumber first).sortKey = (database.ruleNumber second).sortKey) :
    first = second := by
  obtain ⟨firstNumber, firstHeld⟩ := numbered.whole first firstRule
  obtain ⟨secondNumber, secondHeld⟩ := numbered.whole second secondRule
  apply numbered.row_eq firstRule secondRule
  rw [firstHeld, secondHeld] at same ⊢
  rw [Value.sortKey_integer_inj same]

theorem rejectionRules_sorted {coverageType : CoverageTypeId} {contract : ContractId}
    {found : List StoredRule}
    (answered : Query.rejectionRules database coverageType contract = .ok found) :
    found.Perm (database.joinedRules coverageType contract) ∧
      found.Pairwise fun first second => first.key ≤ second.key := by
  obtain ⟨met, same, rfl⟩ := rejectionRules_ok answered
  refine ⟨(List.mergeSort_perm _ _).trans same, ?_⟩
  have transitive (first second third : StoredRule)
      (below : first.sequence.value.sortsAtMost second.sequence.value = true)
      (above : second.sequence.value.sortsAtMost third.sequence.value = true) :
      first.sequence.value.sortsAtMost third.sequence.value = true := by
    rw [Value.sortsAtMost_iff] at below above ⊢
    exact below.trans above
  have total (first second : StoredRule) :
      (first.sequence.value.sortsAtMost second.sequence.value ||
        second.sequence.value.sortsAtMost first.sequence.value) = true := by
    rw [Bool.or_eq_true, Value.sortsAtMost_iff, Value.sortsAtMost_iff]
    exact le_total _ _
  have sorted := List.pairwise_mergeSort transitive total met
  exact sorted.imp fun below => (Value.sortsAtMost_iff _ _).mp below

theorem SingleCustomer.joinedRules_eq {contract : ContractId} {contractRow customerRow : Row}
    (single : database.SingleCustomer contract contractRow customerRow)
    (coverageType : CoverageTypeId) :
    database.joinedRules coverageType contract =
      (database.ruleRows coverageType).map fun ruleRow =>
        database.storedRule ruleRow contractRow customerRow := by
  have contracts : (database.rowsOf "Vertrag").filter (database.isContract contract) =
      [contractRow] := single.contracts
  have customers : (database.rowsOf "Kunde").filter (database.isCustomerOf contractRow) =
      [customerRow] := by
    have linked := single.customers
    simpa only [customerRows, single.contracts, List.any_cons, List.any_nil, Bool.or_false]
      using linked
  simp only [joinedRules, contracts, List.flatMap_cons, List.flatMap_nil, List.append_nil,
    customers, List.map_cons, List.map_nil]
  exact List.map_eq_flatMap.symm

/-- Each found rule is that of one row, and there is one for each row. -/
theorem SingleCustomer.found_rows {contract : ContractId} {contractRow customerRow : Row}
    (single : database.SingleCustomer contract contractRow customerRow)
    {coverageType : CoverageTypeId} {found : List StoredRule}
    (answered : Query.rejectionRules database coverageType contract = .ok found) :
    found.Perm ((database.ruleRows coverageType).map fun ruleRow =>
      database.storedRule ruleRow contractRow customerRow) := by
  rw [← single.joinedRules_eq]
  exact (rejectionRules_sorted answered).1

theorem SameSchema.output {first second : Database} (same : SameSchema first second) :
    first.output = second.output := by
  funext name column row
  simp only [Database.output, same.located?]

/-- Whether the rules can be looked up does not depend on rows, and neither does the fault. -/
theorem SameSchema.rejectionRules_answered {first second : Database}
    (same : SameSchema first second) (coverageType : CoverageTypeId) (contract : ContractId) :
    (fun _ => ()) <$> Query.rejectionRules first coverageType contract =
      (fun _ => ()) <$> Query.rejectionRules second coverageType contract := by
  simp only [Query.rejectionRules, map_bind]
  apply same.bind_source
  intro rules otherRules _ _ rulesShaped
  apply same.bind_source
  intro contracts otherContracts _ _ contractsShaped
  apply same.bind_source
  intro customers otherCustomers _ _ customersShaped
  apply bind_locate rulesShaped
  intro _ _
  apply bind_locate rulesShaped
  intro _ _
  apply bind_locate rulesShaped
  intro _ _
  apply bind_locate contractsShaped
  intro _ _
  apply bind_locate customersShaped
  intro _ _
  apply bind_locate rulesShaped
  intro _ _
  apply bind_locate contractsShaped
  intro _ _
  apply bind_locate customersShaped
  intro _ _
  apply bind_locate contractsShaped
  intro _ _
  rfl

structure SameButRules (first second : Database) : Prop where
  schema : SameSchema first second
  contracts : first.rowsOf "Vertrag" = second.rowsOf "Vertrag"
  customers : first.rowsOf "Kunde" = second.rowsOf "Kunde"

def RulesReordered (first second : Database) : Prop :=
  SameButRules first second ∧
    (first.rowsOf "Ablehnungsregel").Perm (second.rowsOf "Ablehnungsregel")

def RulesAddedBehind (coverageType : CoverageTypeId) (number : Int64) (first second : Database) :
    Prop :=
  SameButRules first second ∧ ∃ added,
    (second.rowsOf "Ablehnungsregel").Perm (first.rowsOf "Ablehnungsregel" ++ added) ∧
      ∀ row ∈ added, second.isRuleOf coverageType row = true →
        Value.order (second.ruleNumber row) (.integer number) = some .gt

namespace SameButRules

variable {first second : Database} (same : SameButRules first second)

include same

theorem ruleNumber_eq : first.ruleNumber = second.ruleNumber := by
  funext row
  simp only [ruleNumber, same.schema.cell]

theorem isRuleOf_eq : first.isRuleOf = second.isRuleOf := by
  funext coverageType row
  simp only [isRuleOf, same.schema.cell]

theorem storedRule_eq : first.storedRule = second.storedRule := by
  funext ruleRow contractRow customerRow
  simp only [storedRule, same.schema.output]

theorem singleCustomer {contract : ContractId} {contractRow customerRow : Row}
    (single : first.SingleCustomer contract contractRow customerRow) :
    second.SingleCustomer contract contractRow customerRow := by
  have contracts : first.contractRows contract = second.contractRows contract := by
    unfold contractRows isContract
    rw [same.contracts, same.schema.cell]
  have customers : first.customerRows contract = second.customerRows contract := by
    unfold customerRows isCustomerOf
    rw [same.customers, contracts, same.schema.cell]
  exact ⟨contracts ▸ single.contracts, customers ▸ single.customers⟩

end SameButRules

theorem RulesAddedBehind.refl (coverageType : CoverageTypeId) (number : Int64)
    (database : Database) : RulesAddedBehind coverageType number database database :=
  ⟨⟨fun _ => rfl, rfl, rfl⟩, [], by simp, by simp⟩

theorem RulesReordered.ruleRows_perm {first second : Database}
    (reordered : RulesReordered first second) (coverageType : CoverageTypeId) :
    (first.ruleRows coverageType).Perm (second.ruleRows coverageType) := by
  obtain ⟨same, rows⟩ := reordered
  unfold ruleRows
  rw [same.isRuleOf_eq]
  exact rows.filter _

theorem RulesReordered.found_eq {first second : Database} (reordered : RulesReordered first second)
    {coverageType : CoverageTypeId} {contract : ContractId} {contractRow customerRow : Row}
    (single : first.SingleCustomer contract contractRow customerRow)
    (numbered : first.NumberedApart coverageType) {found other : List StoredRule}
    (answered : Query.rejectionRules first coverageType contract = .ok found)
    (otherAnswered : Query.rejectionRules second coverageType contract = .ok other) :
    other = found := by
  have foundRows := single.found_rows answered
  have otherRows := (reordered.1.singleCustomer single).found_rows otherAnswered
  rw [← reordered.1.storedRule_eq] at otherRows
  have perm : other.Perm found :=
    otherRows.trans (((reordered.ruleRows_perm coverageType).symm.map _).trans foundRows.symm)
  refine List.Perm.eq_of_pairwise ?_ (rejectionRules_sorted otherAnswered).2
    (rejectionRules_sorted answered).2 perm
  intro left right leftFound rightFound below above
  obtain ⟨leftRow, leftRule, rfl⟩ := List.mem_map.mp (foundRows.mem_iff.mp (perm.mem_iff.mp leftFound))
  obtain ⟨rightRow, rightRule, rfl⟩ := List.mem_map.mp (foundRows.mem_iff.mp rightFound)
  have sameKey := le_antisymm below above
  rw [key_storedRule, key_storedRule] at sameKey
  rw [numbered.row_eq_of_key leftRule rightRule sameKey]

theorem RulesReordered.rejectionRules_eq {first second : Database}
    (reordered : RulesReordered first second) {coverageType : CoverageTypeId}
    {contract : ContractId} {contractRow customerRow : Row}
    (single : first.SingleCustomer contract contractRow customerRow)
    (numbered : first.NumberedApart coverageType) :
    Query.rejectionRules second coverageType contract =
      Query.rejectionRules first coverageType contract := by
  have alike := reordered.1.schema.rejectionRules_answered coverageType contract
  cases answered : Query.rejectionRules first coverageType contract with
  | error fault =>
      cases otherAnswered : Query.rejectionRules second coverageType contract <;>
        simp_all [Functor.map, Except.map]
  | ok found =>
      cases otherAnswered : Query.rejectionRules second coverageType contract with
      | error fault => simp [answered, otherAnswered, Functor.map, Except.map] at alike
      | ok other => rw [reordered.found_eq single numbered answered otherAnswered]

/-- A row of the coverage type that is stored in addition or has been there before. -/
theorem RulesAddedBehind.mem_ruleRows {coverageType : CoverageTypeId} {number : Int64}
    {first second : Database} (extended : RulesAddedBehind coverageType number first second)
    {row : Row} (rule : row ∈ second.ruleRows coverageType) :
    row ∈ first.ruleRows coverageType ∨
      (Value.integer number).sortKey < (second.ruleNumber row).sortKey := by
  obtain ⟨same, added, rows, behind⟩ := extended
  obtain ⟨stored, ofType⟩ := List.mem_filter.mp rule
  rcases List.mem_append.mp (rows.mem_iff.mp stored) with before | new
  · left
    rw [← same.isRuleOf_eq] at ofType
    exact List.mem_filter.mpr ⟨before, ofType⟩
  · right
    exact Value.sortKey_integer_lt_of_order (behind row new ofType)

theorem RulesAddedBehind.ruleRows_subset {coverageType : CoverageTypeId} {number : Int64}
    {first second : Database} (extended : RulesAddedBehind coverageType number first second)
    {row : Row} (rule : row ∈ first.ruleRows coverageType) :
    row ∈ second.ruleRows coverageType := by
  obtain ⟨same, added, rows, _⟩ := extended
  obtain ⟨stored, ofType⟩ := List.mem_filter.mp rule
  rw [same.isRuleOf_eq] at ofType
  exact List.mem_filter.mpr ⟨rows.mem_iff.mpr (List.mem_append_left added stored), ofType⟩

end Database

end Underwriting.Store
