import Underwriting.Proofs.Store.Answers
import Underwriting.Proofs.Store.Insertion
import Underwriting.Proofs.Store.ValueOrder

/-!
Two databases that agree on the rows of a request. Where they have the same relations and columns, a
question to the store has the same answer in both if they agree on the rows that belong together: the
contract, the coverage type, its amounts with their prices, its rules, and the customers of the
contract. All other rows may differ.
-/

namespace Underwriting.Store

def Relation.shape : Relation → Relation
  | .table base => .table { base with rows := [], used := none, skipsInserts := false }
  | .view name columns _ => .view name columns []

theorem Relation.columns_of_shape {first second : Relation} (same : first.shape = second.shape) :
    first.columns = second.columns := by
  cases first <;> cases second <;> simp_all [shape, columns]

theorem Relation.located?_of_shape {first second : Relation} (same : first.shape = second.shape)
    (column : String) : Statement.located? first column = Statement.located? second column := by
  simp only [Statement.located?, columns_of_shape same]

theorem Relation.tellsApart_of_shape {first second : Relation} (same : first.shape = second.shape) :
    first.tellsApart = second.tellsApart := by
  have shaped (relation : Relation) : relation.shape.tellsApart = relation.tellsApart := by
    cases relation <;> rfl
  rw [← shaped first, same, shaped second]

namespace Database

/-- The same relations with the same columns and keys, whatever their rows are. -/
def SameSchema (first second : Database) : Prop :=
  ∀ name, (first.source name).map Relation.shape = (second.source name).map Relation.shape

theorem sameSchema_of_relations {first second : Database} (access : first.access = second.access)
    (relations : first.relations.map Relation.shape = second.relations.map Relation.shape) :
    SameSchema first second := by
  have shapeFound (database : Database) (name : String) :
      (database.relation? name).map Relation.shape =
        (database.relations.map Relation.shape).find? fun relation =>
          sameName relation.name name := by
    have named (relation : Relation) : relation.shape.name = relation.name := by
      cases relation <;> rfl
    simp only [relation?, List.find?_map, Function.comp_def, named]
  intro name
  have found : (first.relation? name).map Relation.shape =
      (second.relation? name).map Relation.shape := by
    rw [shapeFound, shapeFound, relations]
  unfold source
  rw [access]
  split
  · rfl
  · cases firstFound : first.relation? name <;> cases secondFound : second.relation? name <;>
      simp_all [Except.map]

theorem source_updateTable_of_ne {database : Database} {name other : String}
    {change : Table → Table} (kept : ∀ table, (change table).name = table.name)
    (apart : sameName name other = false) :
    (database.updateTable name change).source other = database.source other := by
  have found (relations : List Relation) :
      (updateFirst name change relations).find? (fun relation => sameName relation.name other) =
        relations.find? fun relation => sameName relation.name other := by
    induction relations with
    | nil => rfl
    | cons relation rest ih =>
        unfold updateFirst
        split
        · rename_i named
          -- The changed relation keeps its name, which is not the one that is looked for.
          have sameRelation : (relation.mapTable change).name = relation.name := by
            cases relation with
            | table table => exact kept table
            | view view columns rows => rfl
          have different : sameName relation.name other = false := by
            cases clash : sameName relation.name other with
            | false => rfl
            | true =>
                rw [sameName_comm] at named
                rw [sameName_trans named clash] at apart
                exact apart
          simp [sameRelation, different]
        · simp [List.find?_cons, ih]
  simp only [source, relation?, updateTable, found]

theorem sameSchema_updateTable (database : Database) (name : String) {change : Table → Table}
    (kept : ∀ table, (Relation.table (change table)).shape = (Relation.table table).shape) :
    SameSchema database (database.updateTable name change) := by
  have shapes (relations : List Relation) :
      (updateFirst name change relations).map Relation.shape = relations.map Relation.shape := by
    induction relations with
    | nil => rfl
    | cons relation rest ih =>
        have sameShape : (relation.mapTable change).shape = relation.shape := by
          cases relation with
          | table table => exact kept table
          | view view columns rows => rfl
        unfold updateFirst
        split
        · simp [sameShape]
        · simp [ih]
  exact sameSchema_of_relations rfl (shapes database.relations).symm

theorem SameSchema.source {first second : Database} (same : SameSchema first second)
    (name : String) :
    (∃ fault, first.source name = .error fault ∧ second.source name = .error fault) ∨
      ∃ left right, first.source name = .ok left ∧ second.source name = .ok right ∧
        left.shape = right.shape := by
  have alike := same name
  cases firstSourced : first.source name <;> cases secondSourced : second.source name <;>
    simp_all [Except.map]

theorem SameSchema.located? {first second : Database} (same : SameSchema first second)
    (name column : String) : first.located? name column = second.located? name column := by
  unfold Database.located?
  rcases same.source name with
    ⟨fault, firstFails, secondFails⟩ | ⟨left, right, leftSourced, rightSourced, shaped⟩
  · rw [firstFails, secondFails]
  · simp only [leftSourced, rightSourced, Relation.located?_of_shape shaped]

theorem SameSchema.cell {first second : Database} (same : SameSchema first second) :
    first.cell = second.cell := by
  funext name column row
  simp only [Database.cell, same.located?]

variable (database : Database)

def contractRows (contract : ContractId) : List Row :=
  (database.rowsOf "Vertrag").filter (database.isContract contract)

def coverageTypeRows (coverageType : CoverageTypeId) : List Row :=
  (database.rowsOf "Deckungsart").filter (database.isCoverageType coverageType)

def isAmountOf (coverageType : CoverageTypeId) (row : Row) : Bool :=
  (database.cell "Deckungsbetrag" "Deckungsart_FK" row).equals (.ofInt64 coverageType.number)

def amountRows (coverageType : CoverageTypeId) : List Row :=
  (database.rowsOf "Deckungsbetrag").filter (database.isAmountOf coverageType)

def priceRows (coverageType : CoverageTypeId) : List Row :=
  (database.rowsOf "Deckungspreis").filter fun priceRow =>
    (database.amountRows coverageType).any fun amountRow => database.isPriceOf amountRow priceRow

def ruleRows (coverageType : CoverageTypeId) : List Row :=
  (database.rowsOf "Ablehnungsregel").filter (database.isRuleOf coverageType)

def customerRows (contract : ContractId) : List Row :=
  (database.rowsOf "Kunde").filter fun customerRow =>
    (database.contractRows contract).any fun contractRow =>
      database.isCustomerOf contractRow customerRow

/-- The same rows of a contract and a coverage type, with what belongs to them. -/
structure AgreeOn (contract : ContractId) (coverageType : CoverageTypeId)
    (first second : Database) : Prop where
  contracts : first.contractRows contract = second.contractRows contract
  coverageTypes : first.coverageTypeRows coverageType = second.coverageTypeRows coverageType
  amounts : first.amountRows coverageType = second.amountRows coverageType
  prices : first.priceRows coverageType = second.priceRows coverageType
  rules : first.ruleRows coverageType = second.ruleRows coverageType
  customers : first.customerRows contract = second.customerRows contract

def readRelations : List String :=
  ["Vertrag", "Deckungsart", "Deckungsbetrag", "Deckungspreis", "Ablehnungsregel", "Kunde"]

theorem agreeOn_of_sources {first second : Database} (same : SameSchema first second)
    (sources : ∀ name ∈ readRelations, first.source name = second.source name)
    (contract : ContractId) (coverageType : CoverageTypeId) :
    AgreeOn contract coverageType first second := by
  have rows {name : String} (member : name ∈ readRelations) :
      first.rowsOf name = second.rowsOf name := by
    simp only [rowsOf, sources name member]
  have contracts : first.contractRows contract = second.contractRows contract := by
    unfold contractRows isContract
    rw [rows (by simp [readRelations]), same.cell]
  have amounts : first.amountRows coverageType = second.amountRows coverageType := by
    unfold amountRows isAmountOf
    rw [rows (by simp [readRelations]), same.cell]
  refine ⟨contracts, ?_, amounts, ?_, ?_, ?_⟩
  · unfold coverageTypeRows isCoverageType
    rw [rows (by simp [readRelations]), same.cell]
  · unfold priceRows isPriceOf
    rw [rows (by simp [readRelations]), amounts, same.cell]
  · unfold ruleRows isRuleOf
    rw [rows (by simp [readRelations]), same.cell]
  · unfold customerRows isCustomerOf
    rw [rows (by simp [readRelations]), contracts, same.cell]

end Database

theorem any_eq_of_filter_eq {α : Type} (relevant : α → Bool) {left right : List α}
    {test : α → Bool} (same : left.filter relevant = right.filter relevant)
    (needed : ∀ a, test a = true → relevant a = true) : left.any test = right.any test := by
  have asked (elements : List α) : elements.any test = (elements.filter relevant).any test := by
    rw [List.any_filter]
    congr 1
    funext a
    cases tested : test a with
    | false => simp
    | true => simp [needed a tested]
  rw [asked left, asked right, same]

theorem flatMap_filter_of_nil {α β : Type} {elements : List α} {test : α → Bool} {f : α → List β}
    (empty : ∀ a ∈ elements, test a = false → f a = []) :
    (elements.filter test).flatMap f = elements.flatMap f := by
  induction elements with
  | nil => rfl
  | cons first rest ih =>
      have restSame := ih fun a member => empty a (List.mem_cons_of_mem first member)
      cases kept : test first with
      | true => simp [kept, restSame]
      | false => simp [kept, restSame, empty first List.mem_cons_self kept]

namespace SearchRows

variable (rows : SearchRows) (linked : Row → Row → Bool)

def onlyLinked : SearchRows :=
  { rows with customers := rows.customers.filter fun customer =>
      rows.contracts.any fun contract => linked contract customer }

theorem filter_linked {contract : Row} (member : contract ∈ rows.contracts) :
    (rows.onlyLinked linked).customers.filter (linked contract) =
      rows.customers.filter (linked contract) := by
  simp only [onlyLinked, List.filter_filter]
  apply List.filter_congr
  intro customer _
  cases belongs : linked contract customer with
  | false => simp
  | true =>
      simp only [Bool.true_and, List.any_eq_true]
      exact ⟨contract, member, belongs⟩

theorem filter_sorted_linked {contract : Row} (member : contract ∈ rows.contracts) :
    (rows.onlyLinked linked).sortedCustomers.filter (linked contract) =
      rows.sortedCustomers.filter (linked contract) := by
  simp only [sortedCustomers, filter_sortedRows, filter_linked rows linked member]
  rfl

theorem filter_nested {rules contracts customers others : List Row}
    (same : ∀ contract ∈ contracts,
      customers.filter (linked contract) = others.filter (linked contract)) :
    (rules.flatMap fun rule => contracts.flatMap fun contract =>
        customers.map fun customer => (rule, contract, customer)).filter
          (fun (_, contract, customer) => linked contract customer) =
      (rules.flatMap fun rule => contracts.flatMap fun contract =>
        others.map fun customer => (rule, contract, customer)).filter
          fun (_, contract, customer) => linked contract customer := by
  simp only [List.filter_flatMap, List.filter_map, Function.comp_def]
  apply List.flatMap_congr
  intro rule _
  apply List.flatMap_congr
  intro contract member
  rw [same contract member]

/-- Customers of no contract may be left out before the search, in whatever order it goes. -/
theorem filter_met (order : SearchOrder) :
    ((rows.onlyLinked linked).met order).filter
        (fun (_, contract, customer) => linked contract customer) =
      (rows.met order).filter fun (_, contract, customer) => linked contract customer := by
  cases order with
  | asStored => exact filter_nested linked fun _ => filter_linked rows linked
  | customersSorted => exact filter_nested linked fun _ => filter_sorted_linked rows linked
  | contractsSorted =>
      exact filter_nested linked fun _ member =>
        filter_sorted_linked rows linked (List.mem_mergeSort.mp member)
  | customersFirst =>
      simp only [met, List.filter_flatMap, List.filter_map, Function.comp_def]
      apply flatMap_filter_of_nil
      intro customer _ unlinked
      apply List.flatMap_eq_nil_iff.mpr
      intro rule _
      rw [List.map_eq_nil_iff, List.filter_eq_nil_iff]
      intro contract member
      have apart := List.any_eq_false.mp unlinked contract (List.mem_mergeSort.mp member)
      simpa using apart
  | contractsFirst =>
      simp only [met, List.filter_flatMap, List.filter_map, Function.comp_def]
      apply List.flatMap_congr
      intro contract member
      apply flatMap_filter_of_nil
      intro customer _ unlinked
      rw [List.map_eq_nil_iff, List.filter_eq_nil_iff]
      intro rule _
      have apart := List.any_eq_false.mp unlinked contract member
      simpa using apart

theorem filter_met_congr (linked : Row → Row → Bool) {rows others : SearchRows}
    (same : rows.onlyLinked linked = others.onlyLinked linked) (order : SearchOrder) :
    (rows.met order).filter (fun (_, contract, customer) => linked contract customer) =
      (others.met order).filter fun (_, contract, customer) => linked contract customer := by
  rw [← filter_met rows, same, filter_met]

end SearchRows

section Congruence

variable {first second : Database} {β : Type}

theorem Database.SameSchema.bind_source (same : Database.SameSchema first second) (name : String)
    {next other : Relation → Except Fault β}
    (alike : ∀ left right, first.source name = .ok left → second.source name = .ok right →
      left.shape = right.shape → next left = other right) :
    first.source name >>= next = second.source name >>= other := by
  rcases same.source name with
    ⟨fault, firstFails, secondFails⟩ | ⟨left, right, leftSourced, rightSourced, shaped⟩
  · rw [firstFails, secondFails]
    rfl
  · rw [leftSourced, rightSourced]
    exact alike left right leftSourced rightSourced shaped

theorem bind_locate {left right : Relation} (shaped : left.shape = right.shape)
    (statement : Statement) (source column : String) {next other : Statement.Located → Except Fault β}
    (alike : ∀ located, Statement.located? left column = some located →
      next located = other located) :
    statement.locate left source column >>= next =
      statement.locate right source column >>= other := by
  unfold Statement.locate
  rw [← Relation.located?_of_shape shaped]
  cases found : Statement.located? left column with
  | none => rfl
  | some located => exact alike located found

theorem bind_locateJoined {left right : Relation} (shaped : left.shape = right.shape)
    (source column : String) {next other : Statement.Located → Except Fault β}
    (alike : ∀ located, Statement.located? left column = some located →
      next located = other located) :
    Statement.locateJoined left source column >>= next =
      Statement.locateJoined right source column >>= other := by
  unfold Statement.locateJoined
  rw [← Relation.located?_of_shape shaped]
  cases found : Statement.located? left column with
  | none => rfl
  | some located => exact alike located found

end Congruence

namespace Database.AgreeOn

variable {first second : Database} {contract : ContractId} {coverageType : CoverageTypeId}

theorem filter_rows {name : String} {left right : Relation} {test other : Row → Bool}
    (leftSourced : first.source name = .ok left) (rightSourced : second.source name = .ok right)
    (sameTest : test = other)
    (agree : (first.rowsOf name).filter test = (second.rowsOf name).filter other) :
    left.rows.filter test = right.rows.filter test := by
  rwa [rowsOf_eq leftSourced, rowsOf_eq rightSourced, ← sameTest] at agree

theorem contractExists_congr (agree : AgreeOn contract coverageType first second)
    (same : SameSchema first second) :
    Query.contractExists first contract = Query.contractExists second contract := by
  apply same.bind_source
  intro left right leftSourced rightSourced shaped
  apply bind_locate shaped
  intro id leftId
  refine congrArg Except.ok (any_eq_of_filter_eq (first.isContract contract) ?_ ?_)
  · exact filter_rows leftSourced rightSourced (by unfold isContract; rw [same.cell])
      agree.contracts
  · intro row asked
    simpa only [isContract, cell_eq leftSourced leftId] using asked

theorem coverageTypeExists_congr (agree : AgreeOn contract coverageType first second)
    (same : SameSchema first second) :
    Query.coverageTypeExists first coverageType = Query.coverageTypeExists second coverageType := by
  apply same.bind_source
  intro left right leftSourced rightSourced shaped
  apply bind_locate shaped
  intro id leftId
  refine congrArg Except.ok (any_eq_of_filter_eq (first.isCoverageType coverageType) ?_ ?_)
  · exact filter_rows leftSourced rightSourced (by unfold isCoverageType; rw [same.cell])
      agree.coverageTypes
  · intro row asked
    simpa only [isCoverageType, cell_eq leftSourced leftId] using asked

theorem productMatches_congr (agree : AgreeOn contract coverageType first second)
    (same : SameSchema first second) :
    Query.productMatches first contract coverageType =
      Query.productMatches second contract coverageType := by
  apply same.bind_source
  intro contracts otherContracts contractsSourced otherContractsSourced contractsShaped
  apply same.bind_source
  intro types otherTypes typesSourced otherTypesSourced typesShaped
  apply bind_locate contractsShaped
  intro contractId contractIdFound
  apply bind_locate typesShaped
  intro typeId typeIdFound
  apply bind_locate contractsShaped
  intro contractProduct _
  apply bind_locate typesShaped
  intro typeProduct _
  have sameTypes (contractRow : Row) :
      (types.rows.any fun typeRow =>
        (typeId.read typeRow).equals (.ofInt64 coverageType.number) &&
          (contractProduct.read contractRow).equals (typeProduct.read typeRow)) =
      otherTypes.rows.any fun typeRow =>
        (typeId.read typeRow).equals (.ofInt64 coverageType.number) &&
          (contractProduct.read contractRow).equals (typeProduct.read typeRow) := by
    apply any_eq_of_filter_eq (first.isCoverageType coverageType)
    · exact filter_rows typesSourced otherTypesSourced
        (by unfold isCoverageType; rw [same.cell]) agree.coverageTypes
    · intro row asked
      simp only [Bool.and_eq_true] at asked
      simpa only [isCoverageType, cell_eq typesSourced typeIdFound] using asked.1
  simp only [sameTypes]
  refine congrArg Except.ok (any_eq_of_filter_eq (first.isContract contract) ?_ ?_)
  · exact filter_rows contractsSourced otherContractsSourced
      (by unfold isContract; rw [same.cell]) agree.contracts
  · intro row asked
    simp only [Bool.and_eq_true] at asked
    simpa only [isContract, cell_eq contractsSourced contractIdFound] using asked.1

theorem amountListed_congr (agree : AgreeOn contract coverageType first second)
    (same : SameSchema first second) (amount : Decimal) :
    Query.amountListed first coverageType amount =
      Query.amountListed second coverageType amount := by
  apply same.bind_source
  intro left right leftSourced rightSourced shaped
  apply bind_locate shaped
  intro type typeFound
  apply bind_locate shaped
  intro listed _
  refine congrArg Except.ok (any_eq_of_filter_eq (first.isAmountOf coverageType) ?_ ?_)
  · exact filter_rows leftSourced rightSourced (by unfold isAmountOf; rw [same.cell])
      agree.amounts
  · intro row asked
    simp only [Bool.and_eq_true] at asked
    simpa only [isAmountOf, cell_eq leftSourced typeFound] using asked.1

theorem priceValid_congr (agree : AgreeOn contract coverageType first second)
    (same : SameSchema first second) (amount : Decimal) (on : Date) :
    Query.priceValid first coverageType amount on =
      Query.priceValid second coverageType amount on := by
  apply same.bind_source
  intro prices otherPrices pricesSourced otherPricesSourced pricesShaped
  apply same.bind_source
  intro amounts otherAmounts amountsSourced otherAmountsSourced amountsShaped
  apply bind_locate amountsShaped
  intro type typeFound
  apply bind_locate amountsShaped
  intro listed _
  apply bind_locate pricesShaped
  intro validFrom _
  apply bind_locate pricesShaped
  intro validTo _
  apply bind_locateJoined pricesShaped
  intro priced pricedFound
  apply bind_locateJoined amountsShaped
  intro id idFound
  have ofType {amountRow : Row} (asked : (type.read amountRow).equals
      (.ofInt64 coverageType.number) = true) : first.isAmountOf coverageType amountRow = true := by
    simpa only [isAmountOf, cell_eq amountsSourced typeFound] using asked
  have sameAmounts (priceRow : Row) :
      (amounts.rows.any fun amountRow =>
        (priced.read priceRow).equals (id.read amountRow) &&
          (type.read amountRow).equals (.ofInt64 coverageType.number) &&
          (listed.read amountRow).equals (Query.amountOperand amount)) =
      otherAmounts.rows.any fun amountRow =>
        (priced.read priceRow).equals (id.read amountRow) &&
          (type.read amountRow).equals (.ofInt64 coverageType.number) &&
          (listed.read amountRow).equals (Query.amountOperand amount) := by
    apply any_eq_of_filter_eq (first.isAmountOf coverageType)
    · exact filter_rows amountsSourced otherAmountsSourced
        (by unfold isAmountOf; rw [same.cell]) agree.amounts
    · intro row asked
      simp only [Bool.and_eq_true] at asked
      exact ofType asked.1.2
  simp only [← sameAmounts]
  refine congrArg Except.ok (any_eq_of_filter_eq (fun priceRow =>
    (first.amountRows coverageType).any fun amountRow => first.isPriceOf amountRow priceRow) ?_ ?_)
  · refine filter_rows pricesSourced otherPricesSourced ?_ agree.prices
    rw [agree.amounts]
    unfold isPriceOf
    rw [same.cell]
  · intro priceRow asked
    simp only [Bool.and_eq_true, List.any_eq_true] at asked
    obtain ⟨_, amountRow, stored, ⟨belongs, typed⟩, _⟩ := asked
    refine List.any_eq_true.mpr ⟨amountRow, List.mem_filter.mpr ⟨?_, ofType typed⟩, ?_⟩
    · rwa [rowsOf_eq amountsSourced]
    · rwa [isPriceOf, cell_eq pricesSourced pricedFound, cell_eq amountsSourced idFound]

theorem rejectionRules_congr (agree : AgreeOn contract coverageType first second)
    (same : SameSchema first second) :
    Query.rejectionRules first coverageType contract =
      Query.rejectionRules second coverageType contract := by
  apply same.bind_source
  intro rules otherRules rulesSourced otherRulesSourced rulesShaped
  apply same.bind_source
  intro contracts otherContracts contractsSourced otherContractsSourced contractsShaped
  apply same.bind_source
  intro customers otherCustomers customersSourced otherCustomersSourced customersShaped
  apply bind_locate rulesShaped
  intro sequence _
  apply bind_locate rulesShaped
  intro ageRule _
  apply bind_locate rulesShaped
  intro amountRule _
  apply bind_locate contractsShaped
  intro start _
  apply bind_locate customersShaped
  intro birth _
  apply bind_locate rulesShaped
  intro type typeFound
  apply bind_locate contractsShaped
  intro contractId contractIdFound
  apply bind_locate customersShaped
  intro customerId customerIdFound
  apply bind_locate contractsShaped
  intro link linkFound
  have ruleTest : first.isRuleOf coverageType =
      fun row => (type.read row).equals (.ofInt64 coverageType.number) := by
    funext row
    simp only [isRuleOf, cell_eq rulesSourced typeFound]
  have contractTest : first.isContract contract =
      fun row => (contractId.read row).equals (.ofInt64 contract.number) := by
    funext row
    simp only [isContract, cell_eq contractsSourced contractIdFound]
  have customerTest : first.isCustomerOf =
      fun contractRow customerRow => (customerId.read customerRow).equals (link.read contractRow) := by
    funext contractRow customerRow
    simp only [isCustomerOf, cell_eq customersSourced customerIdFound,
      cell_eq contractsSourced linkFound]
  have sameRules := filter_rows rulesSourced otherRulesSourced
    (by unfold isRuleOf; rw [same.cell]) agree.rules
  have sameContracts := filter_rows contractsSourced otherContractsSourced
    (by unfold isContract; rw [same.cell]) agree.contracts
  have sameCustomers := filter_rows customersSourced otherCustomersSourced
    (by rw [agree.contracts]; unfold isCustomerOf; rw [same.cell]) agree.customers
  have sameKeys : Query.rejectionRuleKeys rules contracts customers customerId link =
      Query.rejectionRuleKeys otherRules otherContracts otherCustomers customerId link := by
    unfold Query.rejectionRuleKeys
    rw [Relation.tellsApart_of_shape rulesShaped, Relation.tellsApart_of_shape contractsShaped,
      Relation.tellsApart_of_shape customersShaped]
  simp only [contractRows, rowsOf_eq contractsSourced, contractTest, customerTest]
    at sameContracts sameCustomers
  rw [ruleTest] at sameRules
  dsimp only
  rw [sameKeys, ← sameRules, ← sameContracts]
  congr 3
  apply SearchRows.filter_met_congr
    (fun contractRow customerRow => (customerId.read customerRow).equals (link.read contractRow))
  simp only [SearchRows.onlyLinked, sameCustomers]

end Database.AgreeOn

end Underwriting.Store
