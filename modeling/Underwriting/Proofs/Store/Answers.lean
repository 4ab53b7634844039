import Mathlib.Data.Multiset.Bind
import Underwriting.Proofs.Store.Columns

/-!
What the questions to the store ask, in terms of rows. Where its relations and columns are there, a
lookup answers whether rows exist that belong together; the rejection rules that are found are the
rules of the coverage type, each with every contract of the number and every customer of that
contract, in the order of their numbers.
-/

namespace Underwriting.Store

namespace Database

variable (database : Database)

def isContract (contract : ContractId) (row : Row) : Bool :=
  (database.cell "Vertrag" "ID" row).equals (.ofInt64 contract.number)

def isCoverageType (coverageType : CoverageTypeId) (row : Row) : Bool :=
  (database.cell "Deckungsart" "ID" row).equals (.ofInt64 coverageType.number)

def shareProduct (contractRow typeRow : Row) : Bool :=
  (database.cell "Vertrag" "Produkt_FK" contractRow).equals
    (database.cell "Deckungsart" "Produkt_FK" typeRow)

def isOffer (coverageType : CoverageTypeId) (amount : Decimal) (row : Row) : Bool :=
  (database.cell "Deckungsbetrag" "Deckungsart_FK" row).equals (.ofInt64 coverageType.number) &&
    (database.cell "Deckungsbetrag" "Deckungsbetrag" row).equals (Query.amountOperand amount)

def isPriceOf (amountRow priceRow : Row) : Bool :=
  (database.cell "Deckungspreis" "Deckungsbetrag_FK" priceRow).equals
    (database.cell "Deckungsbetrag" "ID" amountRow)

def isValidOn (on : Date) (priceRow : Row) : Bool :=
  (database.cell "Deckungspreis" "Gueltig_Von" priceRow).atMost (Query.dateOperand on) &&
    (Query.dateOperand on).atMost (database.cell "Deckungspreis" "Gueltig_Bis" priceRow)

def isRuleOf (coverageType : CoverageTypeId) (row : Row) : Bool :=
  (database.cell "Ablehnungsregel" "Deckungsart_FK" row).equals (.ofInt64 coverageType.number)

def isCustomerOf (contractRow customerRow : Row) : Bool :=
  (database.cell "Kunde" "ID" customerRow).equals (database.cell "Vertrag" "Kunde_FK" contractRow)

def ContractFound (contract : ContractId) : Prop :=
  ∃ row ∈ database.rowsOf "Vertrag", database.isContract contract row

def CoverageTypeFound (coverageType : CoverageTypeId) : Prop :=
  ∃ row ∈ database.rowsOf "Deckungsart", database.isCoverageType coverageType row

def ProductMatches (contract : ContractId) (coverageType : CoverageTypeId) : Prop :=
  ∃ contractRow ∈ database.rowsOf "Vertrag", database.isContract contract contractRow ∧
    ∃ typeRow ∈ database.rowsOf "Deckungsart", database.isCoverageType coverageType typeRow ∧
      database.shareProduct contractRow typeRow

def AmountOffered (coverageType : CoverageTypeId) (amount : Decimal) : Prop :=
  ∃ row ∈ database.rowsOf "Deckungsbetrag", database.isOffer coverageType amount row

def PriceValid (coverageType : CoverageTypeId) (amount : Decimal) (on : Date) : Prop :=
  ∃ priceRow ∈ database.rowsOf "Deckungspreis", database.isValidOn on priceRow ∧
    ∃ amountRow ∈ database.rowsOf "Deckungsbetrag",
      database.isPriceOf amountRow priceRow ∧ database.isOffer coverageType amount amountRow

instance (contract : ContractId) : Decidable (database.ContractFound contract) :=
  inferInstanceAs (Decidable (∃ row ∈ _, _))

instance (coverageType : CoverageTypeId) : Decidable (database.CoverageTypeFound coverageType) :=
  inferInstanceAs (Decidable (∃ row ∈ _, _))

instance (contract : ContractId) (coverageType : CoverageTypeId) :
    Decidable (database.ProductMatches contract coverageType) :=
  inferInstanceAs (Decidable (∃ row ∈ _, _))

instance (coverageType : CoverageTypeId) (amount : Decimal) :
    Decidable (database.AmountOffered coverageType amount) :=
  inferInstanceAs (Decidable (∃ row ∈ _, _))

instance (coverageType : CoverageTypeId) (amount : Decimal) (on : Date) :
    Decidable (database.PriceValid coverageType amount on) :=
  inferInstanceAs (Decidable (∃ row ∈ _, _))

variable {database}

theorem contractExists_eq (known : database.has "Vertrag" ["ID"] = true) (contract : ContractId) :
    Query.contractExists database contract = .ok (decide (database.ContractFound contract)) := by
  obtain ⟨contracts, sourced, found⟩ := has_iff.mp known
  obtain ⟨id, idFound⟩ := found "ID" (by simp)
  refine bind_eq_ok.mpr ⟨contracts, sourced, bind_eq_ok.mpr ⟨id, ?_, ?_⟩⟩
  · exact Statement.locate_eq_ok.mpr idFound
  · refine congrArg Except.ok (Bool.eq_iff_iff.mpr ?_)
    simp [ContractFound, isContract, rowsOf_eq sourced, cell_eq sourced idFound]

theorem coverageTypeExists_eq (known : database.has "Deckungsart" ["ID"] = true)
    (coverageType : CoverageTypeId) :
    Query.coverageTypeExists database coverageType =
      .ok (decide (database.CoverageTypeFound coverageType)) := by
  obtain ⟨types, sourced, found⟩ := has_iff.mp known
  obtain ⟨id, idFound⟩ := found "ID" (by simp)
  refine bind_eq_ok.mpr ⟨types, sourced, bind_eq_ok.mpr ⟨id, ?_, ?_⟩⟩
  · exact Statement.locate_eq_ok.mpr idFound
  · refine congrArg Except.ok (Bool.eq_iff_iff.mpr ?_)
    simp [CoverageTypeFound, isCoverageType, rowsOf_eq sourced, cell_eq sourced idFound]

theorem productMatches_eq (knownContracts : database.has "Vertrag" ["ID", "Produkt_FK"] = true)
    (knownTypes : database.has "Deckungsart" ["ID", "Produkt_FK"] = true) (contract : ContractId)
    (coverageType : CoverageTypeId) :
    Query.productMatches database contract coverageType =
      .ok (decide (database.ProductMatches contract coverageType)) := by
  obtain ⟨contracts, contractsSourced, contractColumns⟩ := has_iff.mp knownContracts
  obtain ⟨types, typesSourced, typeColumns⟩ := has_iff.mp knownTypes
  obtain ⟨contractId, contractIdFound⟩ := contractColumns "ID" (by simp)
  obtain ⟨contractProduct, contractProductFound⟩ := contractColumns "Produkt_FK" (by simp)
  obtain ⟨typeId, typeIdFound⟩ := typeColumns "ID" (by simp)
  obtain ⟨typeProduct, typeProductFound⟩ := typeColumns "Produkt_FK" (by simp)
  refine bind_eq_ok.mpr ⟨contracts, contractsSourced, bind_eq_ok.mpr ⟨types, typesSourced, ?_⟩⟩
  refine bind_eq_ok.mpr ⟨contractId, Statement.locate_eq_ok.mpr contractIdFound, ?_⟩
  refine bind_eq_ok.mpr ⟨typeId, Statement.locate_eq_ok.mpr typeIdFound, ?_⟩
  refine bind_eq_ok.mpr ⟨contractProduct, Statement.locate_eq_ok.mpr contractProductFound, ?_⟩
  refine bind_eq_ok.mpr ⟨typeProduct, Statement.locate_eq_ok.mpr typeProductFound, ?_⟩
  refine congrArg Except.ok (Bool.eq_iff_iff.mpr ?_)
  simp [ProductMatches, isContract, isCoverageType, shareProduct, rowsOf_eq contractsSourced,
    rowsOf_eq typesSourced, cell_eq contractsSourced contractIdFound,
    cell_eq contractsSourced contractProductFound, cell_eq typesSourced typeIdFound,
    cell_eq typesSourced typeProductFound]

theorem amountListed_eq
    (known : database.has "Deckungsbetrag" ["Deckungsart_FK", "Deckungsbetrag"] = true)
    (coverageType : CoverageTypeId) (amount : Decimal) :
    Query.amountListed database coverageType amount =
      .ok (decide (database.AmountOffered coverageType amount)) := by
  obtain ⟨amounts, sourced, found⟩ := has_iff.mp known
  obtain ⟨type, typeFound⟩ := found "Deckungsart_FK" (by simp)
  obtain ⟨listed, listedFound⟩ := found "Deckungsbetrag" (by simp)
  refine bind_eq_ok.mpr ⟨amounts, sourced, ?_⟩
  refine bind_eq_ok.mpr ⟨type, Statement.locate_eq_ok.mpr typeFound, ?_⟩
  refine bind_eq_ok.mpr ⟨listed, Statement.locate_eq_ok.mpr listedFound, ?_⟩
  refine congrArg Except.ok (Bool.eq_iff_iff.mpr ?_)
  simp [AmountOffered, isOffer, rowsOf_eq sourced, cell_eq sourced typeFound,
    cell_eq sourced listedFound]

theorem priceValid_eq
    (knownPrices :
      database.has "Deckungspreis" ["Deckungsbetrag_FK", "Gueltig_Von", "Gueltig_Bis"] = true)
    (knownAmounts :
      database.has "Deckungsbetrag" ["ID", "Deckungsart_FK", "Deckungsbetrag"] = true)
    (coverageType : CoverageTypeId) (amount : Decimal) (on : Date) :
    Query.priceValid database coverageType amount on =
      .ok (decide (database.PriceValid coverageType amount on)) := by
  obtain ⟨prices, pricesSourced, priceColumns⟩ := has_iff.mp knownPrices
  obtain ⟨amounts, amountsSourced, amountColumns⟩ := has_iff.mp knownAmounts
  obtain ⟨type, typeFound⟩ := amountColumns "Deckungsart_FK" (by simp)
  obtain ⟨listed, listedFound⟩ := amountColumns "Deckungsbetrag" (by simp)
  obtain ⟨validFrom, validFromFound⟩ := priceColumns "Gueltig_Von" (by simp)
  obtain ⟨validTo, validToFound⟩ := priceColumns "Gueltig_Bis" (by simp)
  obtain ⟨priced, pricedFound⟩ := priceColumns "Deckungsbetrag_FK" (by simp)
  obtain ⟨id, idFound⟩ := amountColumns "ID" (by simp)
  refine bind_eq_ok.mpr ⟨prices, pricesSourced, bind_eq_ok.mpr ⟨amounts, amountsSourced, ?_⟩⟩
  refine bind_eq_ok.mpr ⟨type, Statement.locate_eq_ok.mpr typeFound, ?_⟩
  refine bind_eq_ok.mpr ⟨listed, Statement.locate_eq_ok.mpr listedFound, ?_⟩
  refine bind_eq_ok.mpr ⟨validFrom, Statement.locate_eq_ok.mpr validFromFound, ?_⟩
  refine bind_eq_ok.mpr ⟨validTo, Statement.locate_eq_ok.mpr validToFound, ?_⟩
  refine bind_eq_ok.mpr ⟨priced, Statement.locateJoined_eq_ok.mpr pricedFound, ?_⟩
  refine bind_eq_ok.mpr ⟨id, Statement.locateJoined_eq_ok.mpr idFound, ?_⟩
  refine congrArg Except.ok (Bool.eq_iff_iff.mpr ?_)
  simp [PriceValid, isValidOn, isPriceOf, isOffer, rowsOf_eq pricesSourced,
    rowsOf_eq amountsSourced, cell_eq pricesSourced validFromFound,
    cell_eq pricesSourced validToFound, cell_eq pricesSourced pricedFound,
    cell_eq amountsSourced idFound, cell_eq amountsSourced typeFound,
    cell_eq amountsSourced listedFound, and_assoc]

/-! What is found is in columns that are there. -/

theorem ProductMatches.known {contract : ContractId} {coverageType : CoverageTypeId}
    (matched : database.ProductMatches contract coverageType) :
    database.has "Vertrag" ["ID", "Produkt_FK"] = true ∧
      database.has "Deckungsart" ["ID", "Produkt_FK"] = true := by
  obtain ⟨contractRow, _, numbered, typeRow, _, typed, shared⟩ := matched
  obtain ⟨contractProduct, typeProduct⟩ := not_null_of_equals shared
  constructor
  · refine has_of_cells (by simp) (List.forall_mem_cons.mpr ⟨?_, List.forall_mem_singleton.mpr ?_⟩)
    · exact ⟨contractRow, (not_null_of_equals numbered).1⟩
    · exact ⟨contractRow, contractProduct⟩
  · refine has_of_cells (by simp) (List.forall_mem_cons.mpr ⟨?_, List.forall_mem_singleton.mpr ?_⟩)
    · exact ⟨typeRow, (not_null_of_equals typed).1⟩
    · exact ⟨typeRow, typeProduct⟩

theorem AmountOffered.known {coverageType : CoverageTypeId} {amount : Decimal}
    (offered : database.AmountOffered coverageType amount) :
    database.has "Deckungsbetrag" ["Deckungsart_FK", "Deckungsbetrag"] = true := by
  obtain ⟨row, _, offer⟩ := offered
  obtain ⟨typed, listed⟩ := (Bool.and_eq_true _ _).mp offer
  refine has_of_cells (by simp) (List.forall_mem_cons.mpr ⟨?_, List.forall_mem_singleton.mpr ?_⟩)
  · exact ⟨row, (not_null_of_equals typed).1⟩
  · exact ⟨row, (not_null_of_equals listed).1⟩

theorem PriceValid.known {coverageType : CoverageTypeId} {amount : Decimal} {on : Date}
    (valid : database.PriceValid coverageType amount on) :
    database.has "Deckungspreis" ["Deckungsbetrag_FK", "Gueltig_Von", "Gueltig_Bis"] = true ∧
      database.has "Deckungsbetrag" ["ID", "Deckungsart_FK", "Deckungsbetrag"] = true := by
  obtain ⟨priceRow, _, current, amountRow, _, priced, offer⟩ := valid
  obtain ⟨typed, listed⟩ := (Bool.and_eq_true _ _).mp offer
  obtain ⟨started, lasting⟩ := (Bool.and_eq_true _ _).mp current
  obtain ⟨link, id⟩ := not_null_of_equals priced
  constructor
  · refine has_of_cells (by simp) (List.forall_mem_cons.mpr ⟨⟨priceRow, link⟩,
      List.forall_mem_cons.mpr ⟨?_, List.forall_mem_singleton.mpr ?_⟩⟩)
    · exact ⟨priceRow, (not_null_of_atMost started).1⟩
    · exact ⟨priceRow, (not_null_of_atMost lasting).2⟩
  · refine has_of_cells (by simp) (List.forall_mem_cons.mpr ⟨⟨amountRow, id⟩,
      List.forall_mem_cons.mpr ⟨?_, List.forall_mem_singleton.mpr ?_⟩⟩)
    · exact ⟨amountRow, (not_null_of_equals typed).1⟩
    · exact ⟨amountRow, (not_null_of_equals listed).1⟩

/-! Whether a question about an amount has an answer does not depend on the amount, and neither does
the fault; two amounts have one answer exactly if the rows decide alike. -/

theorem amountListed_answered (database : Database) (coverageType : CoverageTypeId)
    (amount other : Decimal) :
    (fun _ => ()) <$> Query.amountListed database coverageType amount =
      (fun _ => ()) <$> Query.amountListed database coverageType other := by
  simp only [Query.amountListed, map_bind, map_pure]

theorem priceValid_answered (database : Database) (coverageType : CoverageTypeId)
    (amount other : Decimal) (on : Date) :
    (fun _ => ()) <$> Query.priceValid database coverageType amount on =
      (fun _ => ()) <$> Query.priceValid database coverageType other on := by
  simp only [Query.priceValid, map_bind, map_pure]

theorem known_of_productMatches {contract : ContractId} {coverageType : CoverageTypeId}
    {found : Bool} (answered : Query.productMatches database contract coverageType = .ok found) :
    database.has "Vertrag" ["ID", "Produkt_FK"] = true ∧
      database.has "Deckungsart" ["ID", "Produkt_FK"] = true := by
  unfold Query.productMatches at answered
  simp only [bind_eq_ok, Statement.locate_eq_ok] at answered
  obtain ⟨contracts, contractsSourced, types, typesSourced, contractId, contractIdFound, typeId,
    typeIdFound, contractProduct, contractProductFound, typeProduct, typeProductFound, _⟩ := answered
  exact ⟨has_iff.mpr ⟨contracts, contractsSourced, by simp [contractIdFound, contractProductFound]⟩,
    has_iff.mpr ⟨types, typesSourced, by simp [typeIdFound, typeProductFound]⟩⟩

theorem known_of_amountListed {coverageType : CoverageTypeId} {amount : Decimal} {found : Bool}
    (answered : Query.amountListed database coverageType amount = .ok found) :
    database.has "Deckungsbetrag" ["Deckungsart_FK", "Deckungsbetrag"] = true := by
  unfold Query.amountListed at answered
  simp only [bind_eq_ok, Statement.locate_eq_ok] at answered
  obtain ⟨amounts, sourced, type, typeFound, listed, listedFound, _⟩ := answered
  exact has_iff.mpr ⟨amounts, sourced, by simp [typeFound, listedFound]⟩

theorem known_of_priceValid {coverageType : CoverageTypeId} {amount : Decimal} {on : Date}
    {found : Bool} (answered : Query.priceValid database coverageType amount on = .ok found) :
    database.has "Deckungspreis" ["Deckungsbetrag_FK", "Gueltig_Von", "Gueltig_Bis"] = true ∧
      database.has "Deckungsbetrag" ["ID", "Deckungsart_FK", "Deckungsbetrag"] = true := by
  unfold Query.priceValid at answered
  simp only [bind_eq_ok, Statement.locate_eq_ok, Statement.locateJoined_eq_ok] at answered
  obtain ⟨prices, pricesSourced, amounts, amountsSourced, type, typeFound, listed, listedFound,
    validFrom, fromFound, validTo, toFound, priced, pricedFound, id, idFound, _⟩ := answered
  exact ⟨has_iff.mpr ⟨prices, pricesSourced, by simp [pricedFound, fromFound, toFound]⟩,
    has_iff.mpr ⟨amounts, amountsSourced, by simp [idFound, typeFound, listedFound]⟩⟩

theorem productMatches_eq_ok_true_iff {contract : ContractId} {coverageType : CoverageTypeId} :
    Query.productMatches database contract coverageType = .ok true ↔
      database.ProductMatches contract coverageType := by
  constructor
  · intro answered
    obtain ⟨contracts, types⟩ := known_of_productMatches answered
    rw [productMatches_eq contracts types, Except.ok.injEq, decide_eq_true_eq] at answered
    exact answered
  · intro matched
    obtain ⟨contracts, types⟩ := matched.known
    rw [productMatches_eq contracts types, decide_eq_true matched]

theorem eq_of_not_ok {ε α β : Type} {first second : Except ε α} {mark : β}
    (answered : (fun _ => mark) <$> first = (fun _ => mark) <$> second)
    (fails : ∀ value, first ≠ .ok value) : first = second := by
  cases first with
  | ok value => exact absurd rfl (fails value)
  | error fault =>
      cases second with
      | ok value => simp [Functor.map, Except.map] at answered
      | error other =>
          simp only [Functor.map, Except.map, Except.error.injEq] at answered
          rw [answered]

theorem amountListed_eq_iff (database : Database) (coverageType : CoverageTypeId)
    (amount other : Decimal) :
    Query.amountListed database coverageType amount =
        Query.amountListed database coverageType other ↔
      (database.AmountOffered coverageType amount ↔ database.AmountOffered coverageType other) := by
  by_cases known : database.has "Deckungsbetrag" ["Deckungsart_FK", "Deckungsbetrag"] = true
  · rw [amountListed_eq known, amountListed_eq known, Except.ok.injEq, decide_eq_decide]
  · refine iff_of_true (eq_of_not_ok (amountListed_answered database coverageType amount other)
      fun _ answered => known (known_of_amountListed answered)) ?_
    exact iff_of_false (fun offered => known offered.known) (fun offered => known offered.known)

theorem priceValid_eq_iff (database : Database) (coverageType : CoverageTypeId)
    (amount other : Decimal) (on : Date) :
    Query.priceValid database coverageType amount on =
        Query.priceValid database coverageType other on ↔
      (database.PriceValid coverageType amount on ↔ database.PriceValid coverageType other on) := by
  by_cases known :
      database.has "Deckungspreis" ["Deckungsbetrag_FK", "Gueltig_Von", "Gueltig_Bis"] = true ∧
        database.has "Deckungsbetrag" ["ID", "Deckungsart_FK", "Deckungsbetrag"] = true
  · rw [priceValid_eq known.1 known.2, priceValid_eq known.1 known.2, Except.ok.injEq,
      decide_eq_decide]
  · refine iff_of_true (eq_of_not_ok (priceValid_answered database coverageType amount other on)
      fun _ answered => known (known_of_priceValid answered)) ?_
    exact iff_of_false (fun valid => known valid.known) (fun valid => known valid.known)

theorem PriceValid.offered {coverageType : CoverageTypeId} {amount : Decimal} {on : Date}
    (valid : database.PriceValid coverageType amount on) :
    database.AmountOffered coverageType amount := by
  obtain ⟨_, _, _, amountRow, stored, _, offer⟩ := valid
  exact ⟨amountRow, stored, offer⟩

theorem ProductMatches.contractFound {contract : ContractId} {coverageType : CoverageTypeId}
    (matched : database.ProductMatches contract coverageType) : database.ContractFound contract := by
  obtain ⟨contractRow, stored, numbered, _⟩ := matched
  exact ⟨contractRow, stored, numbered⟩

theorem ProductMatches.coverageTypeFound {contract : ContractId} {coverageType : CoverageTypeId}
    (matched : database.ProductMatches contract coverageType) :
    database.CoverageTypeFound coverageType := by
  obtain ⟨_, _, _, typeRow, stored, typed, _⟩ := matched
  exact ⟨typeRow, stored, typed⟩

/-! What belongs together is found on its own, in columns that are there for that reason. -/

theorem contractExists_of_productMatches {contract : ContractId} {coverageType : CoverageTypeId}
    (matched : database.ProductMatches contract coverageType) :
    Query.contractExists database contract = .ok true := by
  rw [contractExists_eq (has_of_subset matched.known.1 (by simp)),
    decide_eq_true matched.contractFound]

theorem coverageTypeExists_of_productMatches {contract : ContractId} {coverageType : CoverageTypeId}
    (matched : database.ProductMatches contract coverageType) :
    Query.coverageTypeExists database coverageType = .ok true := by
  rw [coverageTypeExists_eq (has_of_subset matched.known.2 (by simp)),
    decide_eq_true matched.coverageTypeFound]

theorem priceValid_eq_ok_true_iff {coverageType : CoverageTypeId} {amount : Decimal} {on : Date} :
    Query.priceValid database coverageType amount on = .ok true ↔
      database.PriceValid coverageType amount on := by
  constructor
  · intro answered
    obtain ⟨prices, amounts⟩ := known_of_priceValid answered
    rw [priceValid_eq prices amounts, Except.ok.injEq, decide_eq_true_eq] at answered
    exact answered
  · intro valid
    obtain ⟨prices, amounts⟩ := valid.known
    rw [priceValid_eq prices amounts, decide_eq_true valid]

theorem amountListed_of_priceValid {coverageType : CoverageTypeId} {amount : Decimal} {on : Date}
    (valid : database.PriceValid coverageType amount on) :
    Query.amountListed database coverageType amount = .ok true := by
  rw [amountListed_eq valid.offered.known, decide_eq_true valid.offered]

end Database

namespace SearchRows

theorem flatMap_swap {α β γ : Type} (outer : List α) (inner : List β) (matched : α → β → List γ) :
    (outer.flatMap fun a => inner.flatMap fun b => matched a b).Perm
      (inner.flatMap fun b => outer.flatMap fun a => matched a b) := by
  apply Multiset.coe_eq_coe.mp
  have swapped := Multiset.bind_bind (outer : Multiset α) (inner : Multiset β)
    (f := fun a b => (matched a b : Multiset γ))
  simpa only [Multiset.coe_bind] using swapped

theorem perm_flatMap {α β : Type} {left right : List α} {first second : α → List β}
    (same : left.Perm right) (alike : ∀ a, (first a).Perm (second a)) :
    (left.flatMap first).Perm (right.flatMap second) :=
  List.Perm.flatMap same fun a _ => alike a

theorem sortedRows_perm (columns : List Nat) (rows : List Row) :
    (sortedRows columns rows).Perm rows :=
  List.mergeSort_perm _ _

/-- The order in which tables are gone through changes nothing but the order of the matches. -/
theorem met_perm (rows : SearchRows) (order : SearchOrder) :
    (rows.met order).Perm (rows.met .asStored) := by
  have rulesPerm : rows.sortedRules.Perm rows.rules := sortedRows_perm _ _
  have customersPerm : rows.sortedCustomers.Perm rows.customers := sortedRows_perm _ _
  cases order with
  | asStored => exact List.Perm.refl _
  | customersSorted =>
      apply perm_flatMap (List.Perm.refl _)
      intro rule
      apply perm_flatMap (List.Perm.refl _)
      intro contract
      exact customersPerm.map _
  | contractsSorted =>
      apply perm_flatMap (List.Perm.refl _)
      intro rule
      apply perm_flatMap (sortedRows_perm _ _)
      intro contract
      exact customersPerm.map _
  | customersFirst =>
      have inner : (rows.met .customersFirst).Perm (rows.customers.flatMap fun customer =>
          rows.rules.flatMap fun rule => rows.contracts.flatMap fun contract =>
            [(rule, contract, customer)]) := by
        apply perm_flatMap (List.Perm.refl _)
        intro customer
        apply perm_flatMap rulesPerm
        intro rule
        rw [← List.map_eq_flatMap]
        exact (sortedRows_perm _ _).map _
      refine inner.trans ((flatMap_swap _ _ _).trans ?_)
      apply perm_flatMap (List.Perm.refl _)
      intro rule
      refine (flatMap_swap _ _ _).trans ?_
      simp only [← List.map_eq_flatMap]
      exact List.Perm.refl _
  | contractsFirst =>
      have inner : (rows.met .contractsFirst).Perm (rows.contracts.flatMap fun contract =>
          rows.rules.flatMap fun rule => rows.customers.flatMap fun customer =>
            [(rule, contract, customer)]) := by
        apply perm_flatMap (List.Perm.refl _)
        intro contract
        refine List.Perm.trans ?_ (flatMap_swap _ _ _)
        apply perm_flatMap (List.Perm.refl _)
        intro customer
        rw [← List.map_eq_flatMap]
        exact rulesPerm.map _
      refine inner.trans ((flatMap_swap _ _ _).trans ?_)
      simp only [← List.map_eq_flatMap]
      exact List.Perm.refl _

end SearchRows

namespace Database

def storedRule (database : Database) (ruleRow contractRow customerRow : Row) : StoredRule :=
  { sequence := database.output "Ablehnungsregel" "LfdNr" ruleRow
    ageRule := database.output "Ablehnungsregel" "R_Alter" ruleRow
    amountRule := database.output "Ablehnungsregel" "R_Betrag" ruleRow
    contractStart := database.output "Vertrag" "Versicherungsbeginn" contractRow
    birthDate := database.output "Kunde" "Geburtsdatum" customerRow }

def joinedRules (database : Database) (coverageType : CoverageTypeId) (contract : ContractId) :
    List StoredRule :=
  ((database.rowsOf "Ablehnungsregel").filter (database.isRuleOf coverageType)).flatMap
    fun ruleRow =>
      ((database.rowsOf "Vertrag").filter (database.isContract contract)).flatMap
        fun contractRow =>
          ((database.rowsOf "Kunde").filter (database.isCustomerOf contractRow)).map
            fun customerRow => database.storedRule ruleRow contractRow customerRow

structure Joins (database : Database) (coverageType : CoverageTypeId) (contract : ContractId)
    (ruleRow contractRow customerRow : Row) : Prop where
  ruleStored : ruleRow ∈ database.rowsOf "Ablehnungsregel"
  ofType : database.isRuleOf coverageType ruleRow
  contractStored : contractRow ∈ database.rowsOf "Vertrag"
  numbered : database.isContract contract contractRow
  customerStored : customerRow ∈ database.rowsOf "Kunde"
  linked : database.isCustomerOf contractRow customerRow

theorem mem_joinedRules {database : Database} {coverageType : CoverageTypeId}
    {contract : ContractId} {stored : StoredRule} :
    stored ∈ database.joinedRules coverageType contract ↔
      ∃ ruleRow contractRow customerRow,
        database.Joins coverageType contract ruleRow contractRow customerRow ∧
          database.storedRule ruleRow contractRow customerRow = stored := by
  simp only [joinedRules, List.mem_flatMap, List.mem_map, List.mem_filter]
  constructor
  · rintro ⟨ruleRow, ⟨ruleStored, ofType⟩, contractRow, ⟨contractStored, numbered⟩, customerRow,
      ⟨customerStored, linked⟩, same⟩
    exact ⟨ruleRow, contractRow, customerRow,
      ⟨ruleStored, ofType, contractStored, numbered, customerStored, linked⟩, same⟩
  · rintro ⟨ruleRow, contractRow, customerRow, joins, same⟩
    exact ⟨ruleRow, ⟨joins.ruleStored, joins.ofType⟩, contractRow,
      ⟨joins.contractStored, joins.numbered⟩, customerRow, ⟨joins.customerStored, joins.linked⟩,
      same⟩

def ruleColumns : List String := ["LfdNr", "R_Alter", "R_Betrag", "Deckungsart_FK"]

def ruleContractColumns : List String := ["Versicherungsbeginn", "ID", "Kunde_FK"]

def ruleCustomerColumns : List String := ["Geburtsdatum", "ID"]

/-- The found rules are the joined ones, sorted by their numbers. -/
theorem rejectionRules_ok {database : Database} {coverageType : CoverageTypeId}
    {contract : ContractId} {found : List StoredRule}
    (answered : Query.rejectionRules database coverageType contract = .ok found) :
    ∃ met : List StoredRule, met.Perm (database.joinedRules coverageType contract) ∧
      found = met.mergeSort fun left right =>
        left.sequence.value.sortsAtMost right.sequence.value := by
  unfold Query.rejectionRules at answered
  simp only [bind_eq_ok, Statement.locate_eq_ok] at answered
  obtain ⟨rules, rulesSourced, contracts, contractsSourced, customers, customersSourced, sequence,
    sequenceFound, ageRule, ageRuleFound, amountRule, amountRuleFound, start, startFound, birth,
    birthFound, type, typeFound, contractId, contractIdFound, customerId, customerIdFound, link,
    linkFound, sorted⟩ := answered
  simp only [pure, Except.pure, Except.ok.injEq] at sorted
  refine ⟨_, ?_, sorted.symm⟩
  refine (((SearchRows.met_perm _ _).filter _).map _).trans ?_
  apply List.Perm.of_eq
  simp only [SearchRows.met, List.filter_flatMap, List.filter_map, List.map_flatMap, List.map_map]
  have ruleTest : database.isRuleOf coverageType =
      fun row => (type.read row).equals (.ofInt64 coverageType.number) := by
    funext row
    simp only [isRuleOf, cell_eq rulesSourced typeFound]
  have contractTest : database.isContract contract =
      fun row => (contractId.read row).equals (.ofInt64 contract.number) := by
    funext row
    simp only [isContract, cell_eq contractsSourced contractIdFound]
  have customerTest : ∀ contractRow, database.isCustomerOf contractRow =
      fun row => (customerId.read row).equals (link.read contractRow) := by
    intro contractRow
    funext row
    simp only [isCustomerOf, cell_eq customersSourced customerIdFound,
      cell_eq contractsSourced linkFound]
  simp only [joinedRules, storedRule, rowsOf_eq rulesSourced, rowsOf_eq contractsSourced,
    rowsOf_eq customersSourced, ruleTest, contractTest, customerTest,
    output_eq rulesSourced sequenceFound, output_eq rulesSourced ageRuleFound,
    output_eq rulesSourced amountRuleFound, output_eq contractsSourced startFound,
    output_eq customersSourced birthFound]
  rfl

theorem rejectionRules_answered {database : Database}
    (knownRules : database.has "Ablehnungsregel" ruleColumns = true)
    (knownContracts : database.has "Vertrag" ruleContractColumns = true)
    (knownCustomers : database.has "Kunde" ruleCustomerColumns = true)
    (coverageType : CoverageTypeId) (contract : ContractId) :
    ∃ found, Query.rejectionRules database coverageType contract = .ok found := by
  obtain ⟨rules, rulesSourced, ruleFound⟩ := has_iff.mp knownRules
  obtain ⟨contracts, contractsSourced, contractFound⟩ := has_iff.mp knownContracts
  obtain ⟨customers, customersSourced, customerFound⟩ := has_iff.mp knownCustomers
  obtain ⟨sequence, sequenceFound⟩ := ruleFound "LfdNr" (by simp [ruleColumns])
  obtain ⟨ageRule, ageRuleFound⟩ := ruleFound "R_Alter" (by simp [ruleColumns])
  obtain ⟨amountRule, amountRuleFound⟩ := ruleFound "R_Betrag" (by simp [ruleColumns])
  obtain ⟨type, typeFound⟩ := ruleFound "Deckungsart_FK" (by simp [ruleColumns])
  obtain ⟨start, startFound⟩ := contractFound "Versicherungsbeginn" (by simp [ruleContractColumns])
  obtain ⟨contractId, contractIdFound⟩ := contractFound "ID" (by simp [ruleContractColumns])
  obtain ⟨link, linkFound⟩ := contractFound "Kunde_FK" (by simp [ruleContractColumns])
  obtain ⟨birth, birthFound⟩ := customerFound "Geburtsdatum" (by simp [ruleCustomerColumns])
  obtain ⟨customerId, customerIdFound⟩ := customerFound "ID" (by simp [ruleCustomerColumns])
  unfold Query.rejectionRules
  simp only [bind_eq_ok, Statement.locate_eq_ok]
  exact ⟨_, rules, rulesSourced, contracts, contractsSourced, customers, customersSourced, sequence,
    sequenceFound, ageRule, ageRuleFound, amountRule, amountRuleFound, start, startFound, birth,
    birthFound, type, typeFound, contractId, contractIdFound, customerId, customerIdFound, link,
    linkFound, rfl⟩

end Database

end Underwriting.Store
