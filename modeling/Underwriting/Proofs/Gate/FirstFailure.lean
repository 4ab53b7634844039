import Mathlib.Data.List.Forall2
import Underwriting.Proofs.Gate.RuleRows
import Underwriting.Store.Sample

/-!
Which failure a request has. Over a database with the relations and columns that the checks read,
and rules that can be used, validation has the outcome of the first condition that does not hold:
contract, coverage type, product, amount, price, and then the joined rules in the order of their
numbers.
-/

namespace Underwriting.Gate

open Store

def checkedColumns : List (String × List String) :=
  [("Vertrag", ["ID", "Produkt_FK", "Kunde_FK", "Versicherungsbeginn"]),
    ("Deckungsart", ["ID", "Produkt_FK"]),
    ("Deckungsbetrag", ["ID", "Deckungsart_FK", "Deckungsbetrag"]),
    ("Deckungspreis", ["Deckungsbetrag_FK", "Gueltig_Von", "Gueltig_Bis"]),
    ("Ablehnungsregel", ["Deckungsart_FK", "LfdNr", "R_Alter", "R_Betrag"]),
    ("Kunde", ["ID", "Geburtsdatum"])]

def isComplete (database : Database) : Bool :=
  checkedColumns.all fun (name, columns) => database.has name columns

structure Readable (stored : StoredRule) : Prop where
  sequence : ∃ number, stored.sequence.value = .integer number
  ageRule : stored.ageRule.value = .null ∨ ∃ content, stored.ageRule.value = .text content
  amountRule : stored.amountRule.value = .null ∨ ∃ content, stored.amountRule.value = .text content
  contractStart : ∃ date, IsDate stored.contractStart.value date
  birthDate : ∃ date, IsDate stored.birthDate.value date

def RulesInOrder (database : Database) (request : Request) (rules : List DatedRule) : Prop :=
  rules.Pairwise (fun first second => first.rule.sequence ≤ second.rule.sequence) ∧
    ∃ joined, joined.Perm (database.joinedRules request.coverageType request.contract) ∧
      List.Forall₂ Decodes joined rules

def lookupFailure? (database : Database) (request : Request) (on : Date) : Option Failure :=
  if ¬database.ContractFound request.contract then
    some (.contractNotFound request.contract)
  else if ¬database.CoverageTypeFound request.coverageType then
    some (.coverageTypeNotFound request.coverageType)
  else if ¬database.ProductMatches request.contract request.coverageType then
    some (.productMismatch request.contract request.coverageType)
  else if ¬database.AmountOffered request.coverageType request.amount then
    some (.invalidAmount request.coverageType request.amount)
  else if ¬database.PriceValid request.coverageType request.amount on then
    some (.priceUnavailable request.coverageType request.amount on)
  else none

/-- The outcome of the first condition that does not hold, those of the rules in their order last. -/
def verdict (database : Database) (request : Request) (on : Date) (rules : List DatedRule) :
    Except Failure Unit :=
  outcomeOf ((lookupFailure? database request on).or (rules.findSome? (·.failure? request)))

theorem has_of_isComplete {database : Database} (complete : isComplete database = true)
    {name : String} {wanted : List String}
    (checked : ∃ entry ∈ checkedColumns, entry.1 = name ∧ wanted ⊆ entry.2) :
    database.has name wanted = true := by
  obtain ⟨⟨_, columns⟩, member, rfl, subset⟩ := checked
  exact Database.has_of_subset (List.all_eq_true.mp complete _ member) subset

theorem outcome_runLookups {database : Database} (complete : isComplete database = true)
    (request : Request) (on : Date) :
    (runLookups database request on).outcome = outcomeOf (lookupFailure? database request on) := by
  have known {name : String} {wanted : List String}
      (checked : ∃ entry ∈ checkedColumns, entry.1 = name ∧ wanted ⊆ entry.2) :
      database.has name wanted = true := has_of_isComplete complete checked
  have contract := outcome_require_of_ok
    (Database.contractExists_eq (known (by decide)) request.contract)
  have coverageType := outcome_require_of_ok
    (Database.coverageTypeExists_eq (known (by decide)) request.coverageType)
  have product := outcome_require_of_ok
    (Database.productMatches_eq (known (by decide)) (known (by decide))
      request.contract request.coverageType)
  have amount := outcome_require_of_ok
    (Database.amountListed_eq (known (by decide)) request.coverageType request.amount)
  have price := outcome_require_of_ok
    (Database.priceValid_eq (known (by decide)) (known (by decide))
      request.coverageType request.amount on)
  simp only [runLookups, Traced.outcome_bind, checkContract, checkCoverageType, checkProduct,
    checkAmount, checkPrice, contract, coverageType, product, amount, price, decide_eq_true_eq,
    lookupFailure?]
  by_cases contractFound : database.ContractFound request.contract
  · by_cases typeFound : database.CoverageTypeFound request.coverageType
    · by_cases matched : database.ProductMatches request.contract request.coverageType
      · by_cases offered : database.AmountOffered request.coverageType request.amount
        · by_cases valid : database.PriceValid request.coverageType request.amount on
          · simp [contractFound, typeFound, matched, offered, valid, outcomeOf, Except.bind]
          · simp [contractFound, typeFound, matched, offered, valid, outcomeOf, Except.bind]
        · simp [contractFound, typeFound, matched, offered, outcomeOf, Except.bind]
      · simp [contractFound, typeFound, matched, outcomeOf, Except.bind]
    · simp [contractFound, typeFound, outcomeOf, Except.bind]
  · simp [contractFound, outcomeOf, Except.bind]

theorem exists_optionalValue {value : Value} (held : value = .null ∨ ∃ content, value = .text content) :
    ∃ content, value = optionalValue content := by
  rcases held with null | ⟨content, text⟩
  · exact ⟨none, null⟩
  · exact ⟨some content, text⟩

theorem Readable.exists_decodes {stored : StoredRule} (readable : Readable stored) :
    ∃ dated, Decodes stored dated := by
  obtain ⟨number, sequence⟩ := readable.sequence
  obtain ⟨ageText, ageRule⟩ := exists_optionalValue readable.ageRule
  obtain ⟨amountText, amountRule⟩ := exists_optionalValue readable.amountRule
  obtain ⟨start, contractStart⟩ := readable.contractStart
  obtain ⟨birth, birthDate⟩ := readable.birthDate
  exact ⟨⟨⟨number, ageText, amountText⟩, start, birth⟩, sequence, ageRule, amountRule,
    contractStart, birthDate⟩

theorem Decodes.readable {stored : StoredRule} {dated : DatedRule} (decodes : Decodes stored dated) :
    Readable stored := by
  have held {value : Value} {content : Option String} (same : value = optionalValue content) :
      value = .null ∨ ∃ text, value = .text text := by
    cases content with
    | none => exact Or.inl same
    | some text => exact Or.inr ⟨text, same⟩
  exact ⟨⟨_, decodes.sequence⟩, held decodes.ageRule, held decodes.amountRule,
    ⟨_, decodes.contractStart⟩, ⟨_, decodes.birthDate⟩⟩

def numberOf (stored : StoredRule) : Int64 :=
  match stored.sequence.value with
  | .integer number => number
  | _ => 0

theorem sortsAtMost_integer (left right : Int64) :
    Value.sortsAtMost (.integer left) (.integer right) = decide (left ≤ right) := by
  simp only [Value.sortsAtMost, Value.order, bne, Int64.le_iff_toInt_le]
  rw [Bool.eq_iff_iff]
  simp [Int.compare_eq_gt]

theorem pairwise_mergeSort_number (joined : List StoredRule)
    (readable : ∀ stored ∈ joined, Readable stored) :
    (joined.mergeSort fun left right =>
      left.sequence.value.sortsAtMost right.sequence.value).Pairwise
        fun first second => numberOf first ≤ numberOf second := by
  -- Sorting by values is total only on numbers; on these it is sorting by the numbers themselves.
  have byNumber : (joined.mergeSort fun left right =>
      left.sequence.value.sortsAtMost right.sequence.value) =
      joined.mergeSort fun left right => decide (numberOf left ≤ numberOf right) := by
    have same := List.map_mergeSort (f := id) (l := joined)
      (r := fun left right => left.sequence.value.sortsAtMost right.sequence.value)
      (s := fun left right => decide (numberOf left ≤ numberOf right)) (by
        intro left leftMember right rightMember
        obtain ⟨first, firstHeld⟩ := (readable left leftMember).sequence
        obtain ⟨second, secondHeld⟩ := (readable right rightMember).sequence
        simp only [id, numberOf, firstHeld, secondHeld]
        exact sortsAtMost_integer first second)
    simpa using same
  rw [byNumber]
  have transitive (first second third : StoredRule)
      (below : decide (numberOf first ≤ numberOf second) = true)
      (above : decide (numberOf second ≤ numberOf third) = true) :
      decide (numberOf first ≤ numberOf third) = true := by
    simp only [decide_eq_true_eq] at below above ⊢
    exact Int64.le_trans below above
  have total (first second : StoredRule) :
      (decide (numberOf first ≤ numberOf second) || decide (numberOf second ≤ numberOf first)) =
        true := by
    simp only [Bool.or_eq_true, decide_eq_true_eq]
    exact Int64.le_total _ _
  have sorted := List.pairwise_mergeSort transitive total joined
  exact sorted.imp fun below => of_decide_eq_true below

theorem exists_decoded (joined : List StoredRule) (readable : ∀ stored ∈ joined, Readable stored) :
    ∃ rules, List.Forall₂ Decodes joined rules := by
  induction joined with
  | nil => exact ⟨[], List.Forall₂.nil⟩
  | cons stored rest ih =>
      obtain ⟨dated, decodes⟩ := (readable stored (by simp)).exists_decodes
      obtain ⟨others, decoded⟩ := ih fun other member => readable other (by simp [member])
      exact ⟨dated :: others, List.Forall₂.cons decodes decoded⟩

theorem findSome?_of_decoded {joined : List StoredRule} {rules : List DatedRule}
    (decoded : List.Forall₂ Decodes joined rules) (request : Request) :
    joined.findSome? (storedFailure? request) = rules.findSome? (·.failure? request) := by
  induction decoded with
  | nil => rfl
  | cons decodes _ ih =>
      simp only [List.findSome?_cons, storedFailure?_of_decodes decodes request, ih]

theorem pairwise_of_decoded {joined : List StoredRule} {rules : List DatedRule}
    (decoded : List.Forall₂ Decodes joined rules)
    (sorted : joined.Pairwise fun first second => numberOf first ≤ numberOf second) :
    rules.Pairwise fun first second => first.rule.sequence ≤ second.rule.sequence := by
  have number {stored : StoredRule} {dated : DatedRule} (decodes : Decodes stored dated) :
      numberOf stored = dated.rule.sequence := by
    simp [numberOf, decodes.sequence]
  induction decoded with
  | nil => exact List.Pairwise.nil
  | @cons stored dated joinedRest rulesRest decodes decodedRest ih =>
      obtain ⟨least, rest⟩ := List.pairwise_cons.mp sorted
      refine List.pairwise_cons.mpr ⟨?_, ih rest⟩
      intro other member
      obtain ⟨index, below, rfl⟩ := List.mem_iff_getElem.mp member
      have storedBelow : index < joinedRest.length := by rwa [decodedRest.length_eq]
      have otherDecodes := decodedRest.get storedBelow below
      have bound := least joinedRest[index] (List.getElem_mem storedBelow)
      rw [number decodes] at bound
      exact (number otherDecodes) ▸ bound

/-- Validation has the outcome of the first condition that does not hold, and passes if all hold. -/
theorem outcome_validate_eq_verdict {database : Database} (complete : isComplete database = true)
    (request : Request)
    (readable : ∀ stored ∈ database.joinedRules request.coverageType request.contract,
      Readable stored) :
    ∃ rules, RulesInOrder database request rules ∧
      ∀ on, (validate database request on).outcome = verdict database request on rules := by
  obtain ⟨found, answered⟩ := Database.rejectionRules_answered
    (has_of_isComplete complete (by decide))
    (has_of_isComplete complete (by decide))
    (has_of_isComplete complete (by decide)) request.coverageType request.contract
  obtain ⟨met, same, rfl⟩ := Database.rejectionRules_ok answered
  have metReadable : ∀ stored ∈ met, Readable stored :=
    fun stored member => readable stored (same.mem_iff.mp member)
  have sorted := pairwise_mergeSort_number met metReadable
  have sortedPerm := List.mergeSort_perm met fun left right =>
    left.sequence.value.sortsAtMost right.sequence.value
  generalize (met.mergeSort fun left right =>
    left.sequence.value.sortsAtMost right.sequence.value) = ordered at answered sorted sortedPerm
  obtain ⟨rules, decoded⟩ := exists_decoded ordered
    fun stored member => metReadable stored (sortedPerm.mem_iff.mp member)
  refine ⟨rules, ⟨pairwise_of_decoded decoded sorted, ordered, sortedPerm.trans same, decoded⟩, ?_⟩
  intro on
  rw [outcome_validate, outcome_runChecks, outcome_runLookups complete,
    outcome_checkRules_of_ok answered, findSome?_of_decoded decoded request]
  cases failed : lookupFailure? database request on with
  | some failure => simp [verdict, failed, outcomeOf, Except.bind]
  | none => simp [verdict, failed, outcomeOf, Except.bind]

theorem readable_of_decode {database : Database} {request : Request}
    (decoded : ((database.joinedRules request.coverageType request.contract).all fun stored =>
      (decode stored).toOption.isSome) = true) :
    ∀ stored ∈ database.joinedRules request.coverageType request.contract, Readable stored := by
  intro stored member
  have readable := List.all_eq_true.mp decoded stored member
  cases read : decode stored with
  | error fault => simp [read, Except.toOption] at readable
  | ok dated => exact (decode_eq_ok.mp read).readable

def portfolioWithRules : Database :=
  Sample.singleContract 1
    [[.integer 7, .integer 2, .text ">=5000", .text ">=18"],
      [.integer 7, .integer 1, .text ">=20000", .null]]

theorem portfolioWithRules_verdict :
    isComplete portfolioWithRules = true ∧
      (∀ stored ∈ portfolioWithRules.joinedRules Sample.request.coverageType
        Sample.request.contract, Readable stored) ∧
      ∃ rules, RulesInOrder portfolioWithRules Sample.request rules ∧
        ∀ on, (validate portfolioWithRules Sample.request on).outcome =
          verdict portfolioWithRules Sample.request on rules := by
  have complete : isComplete portfolioWithRules = true := by decide +kernel
  have readable : ∀ stored ∈ portfolioWithRules.joinedRules Sample.request.coverageType
      Sample.request.contract, Readable stored := readable_of_decode (by decide +kernel)
  exact ⟨complete, readable, outcome_validate_eq_verdict complete Sample.request readable⟩

end Underwriting.Gate
