import Underwriting.Proofs.Gate.RuleRows
import Underwriting.Proofs.Store.AmountColumn
import Underwriting.Store.Sample

/-!
Whether the scale of an amount matters. Rules compare values and do not look at scales; of the lookups
only those that compare a stored amount with the requested one can tell amounts of one value apart, and
by columns that lean to numbers they do so where the value is a whole number of 64 bits that is no
double.
-/

namespace Underwriting.Gate

open Store

def Failure.ruleNumber? : Failure → Option Int64
  | .ruleViolation _ number => some number
  | _ => none

/-- Two requests pass alike, or fail for one kind of reason, a violated rule with one number. -/
def SameDecision : Except Failure Unit → Except Failure Unit → Prop
  | .ok _, .ok _ => True
  | .error first, .error second =>
      first.kind = second.kind ∧ first.ruleNumber? = second.ruleNumber?
  | _, _ => False

def Request.withAmount (request : Request) (amount : Decimal) : Request :=
  { request with amount := amount }

def ScaleIgnored (database : Database) (request : Request) (other : Decimal) (on : Date) : Prop :=
  request.amount.sameValue other = true →
    SameDecision (validate database request on).outcome
      (validate database (Request.withAmount request other) on).outcome

theorem SameDecision.refl (outcome : Except Failure Unit) : SameDecision outcome outcome := by
  cases outcome <;> simp [SameDecision]

def contractFits (database : Database) (request : Request) : Except Failure Unit :=
  (decided .checkingContract (.contractNotFound request.contract)
      (Query.contractExists database request.contract)).bind fun _ =>
    (decided .checkingCoverageType (.coverageTypeNotFound request.coverageType)
        (Query.coverageTypeExists database request.coverageType)).bind fun _ =>
      decided .checkingProduct (.productMismatch request.contract request.coverageType)
        (Query.productMatches database request.contract request.coverageType)

def pricedAndRuled (database : Database) (request : Request) (on : Date) : Except Failure Unit :=
  (decided .checkingPrice (.priceUnavailable request.coverageType request.amount on)
    (Query.priceValid database request.coverageType request.amount on)).bind fun _ =>
      (checkRules database request).outcome

theorem outcome_validate_eq_bind (database : Database) (request : Request) (on : Date) :
    (validate database request on).outcome =
      (contractFits database request).bind fun _ =>
        (decided .checkingAmount (.invalidAmount request.coverageType request.amount)
            (Query.amountListed database request.coverageType request.amount)).bind fun _ =>
          pricedAndRuled database request on := by
  rw [outcome_validate, outcome_runChecks, runLookups]
  simp only [Traced.outcome_bind, checkContract, checkCoverageType, checkProduct, checkAmount,
    checkPrice, outcome_require, contractFits, pricedAndRuled]
  cases decided .checkingContract (.contractNotFound request.contract)
    (Query.contractExists database request.contract) with
  | error failure => rfl
  | ok _ =>
      cases decided .checkingCoverageType (.coverageTypeNotFound request.coverageType)
        (Query.coverageTypeExists database request.coverageType) with
      | error failure => rfl
      | ok _ =>
          cases decided .checkingProduct (.productMismatch request.contract request.coverageType)
            (Query.productMatches database request.contract request.coverageType) with
          | error failure => rfl
          | ok _ =>
              cases decided .checkingAmount (.invalidAmount request.coverageType request.amount)
                (Query.amountListed database request.coverageType request.amount) <;> rfl

theorem contractFits_ok_iff {database : Database} {request : Request} :
    contractFits database request = .ok () ↔
      database.ProductMatches request.contract request.coverageType := by
  rw [← Database.productMatches_eq_ok_true_iff]
  constructor
  · intro fits
    obtain ⟨_, _, rest⟩ := bind_eq_ok.mp fits
    obtain ⟨_, _, product⟩ := bind_eq_ok.mp rest
    exact decided_ok_iff.mp product
  · intro answered
    have matched := Database.productMatches_eq_ok_true_iff.mp answered
    have contract := Database.contractExists_of_productMatches matched
    have coverageType := Database.coverageTypeExists_of_productMatches matched
    refine bind_eq_ok.mpr ⟨(), decided_ok_iff.mpr contract, ?_⟩
    exact bind_eq_ok.mpr ⟨(), decided_ok_iff.mpr coverageType, decided_ok_iff.mpr answered⟩

theorem storedFailure?_withAmount {request : Request} {other : Decimal}
    (same : request.amount.value = other.value) (stored : StoredRule) :
    storedFailure? (Request.withAmount request other) stored = storedFailure? request stored := by
  have satisfied (rule : AmountRule) :
      rule.isSatisfiedBy other = rule.isSatisfiedBy request.amount := by
    rw [Bool.eq_iff_iff, AmountRule.isSatisfiedBy_iff, AmountRule.isSatisfiedBy_iff]
    simp only [Decimal.atMost_iff, same]
  unfold storedFailure? DatedRule.failure? Request.withAmount
  simp only [satisfied]

theorem outcome_checkRules (database : Database) (request : Request) :
    (checkRules database request).outcome =
      match Query.rejectionRules database request.coverageType request.contract with
      | .error fault => .error (.dataAccess .checkingRules (.store fault))
      | .ok rules => outcomeOf (rules.findSome? (storedFailure? request)) := by
  cases found : Query.rejectionRules database request.coverageType request.contract with
  | error fault =>
      simp [checkRules, storedRules, Traced.outcome_bind, found, Except.bind]
  | ok rules => exact outcome_checkRules_of_ok found

theorem outcome_checkRules_withAmount {request : Request} {other : Decimal}
    (same : request.amount.value = other.value) (database : Database) :
    (checkRules database (Request.withAmount request other)).outcome =
      (checkRules database request).outcome := by
  rw [outcome_checkRules, outcome_checkRules, funext (storedFailure?_withAmount same)]
  rfl

theorem kind_of_storedFailure? {request : Request} {stored : StoredRule} {failure : Failure}
    (fails : storedFailure? request stored = some failure) :
    failure.kind = "rule_violation" ∨ failure.kind = "data_access" := by
  unfold storedFailure? DatedRule.failure? at fails
  split at fails
  · cases fails
    exact Or.inr rfl
  · split at fails
    · cases fails
      exact Or.inr rfl
    · split at fails
      · cases fails
        exact Or.inl rfl
      · cases fails

theorem kind_of_checkRules {database : Database} {request : Request} {failure : Failure}
    (failed : (checkRules database request).outcome = .error failure) :
    failure.kind = "rule_violation" ∨ failure.kind = "data_access" := by
  rw [outcome_checkRules] at failed
  split at failed
  · cases failed
    exact Or.inr rfl
  · rename_i rules _
    cases found : rules.findSome? (storedFailure? request) with
    | none => simp [found, outcomeOf] at failed
    | some other =>
        obtain ⟨stored, _, fails⟩ := List.exists_of_findSome?_eq_some found
        simp only [found, outcomeOf, Except.error.injEq] at failed
        exact failed ▸ kind_of_storedFailure? fails

/-- Behind one lookup for either amount, the decisions are the same exactly if the answers are and
what follows a yes decides the same; no later check fails for the kind of reason of the lookup. -/
theorem sameDecision_decided_bind_iff {first second : Except Fault Bool}
    (answered : (fun _ => ()) <$> first = (fun _ => ()) <$> second) (operation : Operation)
    (failure other : Failure) (kinds : failure.kind = other.kind)
    (numbers : failure.ruleNumber? = other.ruleNumber?) {next further : Except Failure Unit}
    (nextApart : ∀ cause, next = .error cause → cause.kind ≠ failure.kind)
    (furtherApart : ∀ cause, further = .error cause → cause.kind ≠ failure.kind) :
    SameDecision ((decided operation failure first).bind fun _ => next)
        ((decided operation other second).bind fun _ => further) ↔
      first = second ∧ (first = .ok true → SameDecision next further) := by
  cases first with
  | error fault =>
      have same := Database.eq_of_not_ok answered (by simp)
      subst same
      simp [decided, Except.bind, SameDecision]
  | ok found =>
      cases second with
      | error fault => simp [Functor.map, Except.map] at answered
      | ok otherFound =>
          cases found <;> cases otherFound
          · simp [decided, outcomeOf, Except.bind, SameDecision, kinds, numbers]
          · cases further with
            | ok value => simp [decided, outcomeOf, Except.bind, SameDecision]
            | error cause =>
                have apart := furtherApart cause rfl
                simp [decided, outcomeOf, Except.bind, SameDecision, apart.symm]
          · cases next with
            | ok value => simp [decided, outcomeOf, Except.bind, SameDecision]
            | error cause =>
                have apart := nextApart cause rfl
                rw [kinds] at apart
                simp [decided, outcomeOf, Except.bind, SameDecision, apart]
          · simp [decided, outcomeOf, Except.bind]

theorem kind_of_decided_bind {operation : Operation} {failure cause : Failure}
    {answer : Except Fault Bool} {next : Except Failure Unit}
    (failed : ((decided operation failure answer).bind fun _ => next) = .error cause) :
    cause.kind = failure.kind ∨ cause.kind = "data_access" ∨ next = .error cause := by
  cases answer with
  | error fault =>
      simp only [decided, Except.bind, Except.error.injEq] at failed
      exact Or.inr (Or.inl (failed ▸ rfl))
  | ok found =>
      cases found with
      | false =>
          simp only [decided, outcomeOf, Except.bind, Bool.false_eq_true, if_false,
            Except.error.injEq] at failed
          exact Or.inl (failed ▸ rfl)
      | true => exact Or.inr (Or.inr failed)

theorem sameDecision_pricedAndRuled_iff {request : Request} {other : Decimal}
    (same : request.amount.value = other.value) (database : Database) (on : Date) :
    SameDecision (pricedAndRuled database request on)
        (pricedAndRuled database (Request.withAmount request other) on) ↔
      (database.PriceValid request.coverageType request.amount on ↔
        database.PriceValid request.coverageType other on) := by
  have apart (amount : Decimal) (cause : Failure)
      (failed : (checkRules database request).outcome = .error cause) :
      cause.kind ≠ (Failure.priceUnavailable request.coverageType amount on).kind := by
    rcases kind_of_checkRules failed with rule | access
    · rw [rule]
      simp [Failure.kind]
    · rw [access]
      simp [Failure.kind]
  have answered := Database.priceValid_answered database request.coverageType request.amount other on
  unfold pricedAndRuled
  rw [outcome_checkRules_withAmount same, ← Database.priceValid_eq_iff]
  refine (sameDecision_decided_bind_iff answered .checkingPrice
    (.priceUnavailable request.coverageType request.amount on)
    (.priceUnavailable request.coverageType other on) rfl rfl (apart _) (apart _)).trans ?_
  exact ⟨And.left, fun alike => ⟨alike, fun _ => SameDecision.refl _⟩⟩

theorem kind_of_pricedAndRuled {database : Database} {request : Request} {on : Date}
    {cause : Failure} (failed : pricedAndRuled database request on = .error cause) :
    cause.kind ≠ "invalid_amount" := by
  rcases kind_of_decided_bind failed with price | access | ruled
  · rw [price]
    simp [Failure.kind]
  · simp [access]
  · rcases kind_of_checkRules ruled with rule | access
    · simp [rule]
    · simp [access]

/-- Behind a contract, coverage type and product that fit. -/
theorem sameDecision_offered_iff {request : Request} {other : Decimal}
    (same : request.amount.value = other.value) (database : Database) (on : Date) :
    SameDecision
        ((decided .checkingAmount (.invalidAmount request.coverageType request.amount)
          (Query.amountListed database request.coverageType request.amount)).bind fun _ =>
            pricedAndRuled database request on)
        ((decided .checkingAmount (.invalidAmount request.coverageType other)
          (Query.amountListed database request.coverageType other)).bind fun _ =>
            pricedAndRuled database (Request.withAmount request other) on) ↔
      (database.AmountOffered request.coverageType request.amount ↔
          database.AmountOffered request.coverageType other) ∧
        (database.PriceValid request.coverageType request.amount on ↔
          database.PriceValid request.coverageType other on) := by
  have answered := Database.amountListed_answered database request.coverageType request.amount other
  refine (sameDecision_decided_bind_iff answered .checkingAmount
    (.invalidAmount request.coverageType request.amount)
    (.invalidAmount request.coverageType other) rfl rfl
    (fun _ => kind_of_pricedAndRuled) (fun _ => kind_of_pricedAndRuled)).trans ?_
  rw [Database.amountListed_eq_iff]
  refine and_congr_right fun offers => ?_
  rw [sameDecision_pricedAndRuled_iff same]
  by_cases offered : database.AmountOffered request.coverageType request.amount
  · rw [Database.amountListed_eq offered.known, decide_eq_true offered]
    simp
  · -- What is not offered has no price.
    have unpriced : database.PriceValid request.coverageType request.amount on ↔
        database.PriceValid request.coverageType other on :=
      iff_of_false (fun valid => offered valid.offered)
        (fun valid => offered (offers.mpr valid.offered))
    exact iff_of_true (fun _ => unpriced) unpriced

/-- Validation decides the same of two amounts of one value exactly if contract, coverage type and
product do not fit, or both amounts or neither are offered and have a valid price. -/
theorem sameDecision_validate_iff {request : Request} {other : Decimal}
    (same : request.amount.value = other.value) (database : Database) (on : Date) :
    SameDecision (validate database request on).outcome
        (validate database (Request.withAmount request other) on).outcome ↔
      (database.ProductMatches request.contract request.coverageType →
        (database.AmountOffered request.coverageType request.amount ↔
            database.AmountOffered request.coverageType other) ∧
          (database.PriceValid request.coverageType request.amount on ↔
            database.PriceValid request.coverageType other on)) := by
  have prefixSame : contractFits database (Request.withAmount request other) =
      contractFits database request := rfl
  rw [outcome_validate_eq_bind, outcome_validate_eq_bind, prefixSame, ← contractFits_ok_iff]
  cases fits : contractFits database request with
  | error failure =>
      change SameDecision (.error failure) (.error failure) ↔ _
      exact iff_of_true (SameDecision.refl _) (by simp)
  | ok value =>
      refine (sameDecision_offered_iff same database on).trans ?_
      simp

/-- Where the scale of an amount is ignored: exactly where two amounts of one value are offered alike
and priced alike for a product that fits. A column that leans to numbers tells the two apart in some
row exactly if they are split by their scale, and any other column if their texts differ. -/
theorem scaleIgnored_iff (database : Database) (request : Request) (other : Decimal) (on : Date) :
    (ScaleIgnored database request other on ↔
        (request.amount.sameValue other = true →
          database.ProductMatches request.contract request.coverageType →
            (database.AmountOffered request.coverageType request.amount ↔
                database.AmountOffered request.coverageType other) ∧
              (database.PriceValid request.coverageType request.amount on ↔
                database.PriceValid request.coverageType other on))) ∧
      (request.amount.sameValue other = true → ∀ affinity,
        (ToldApart affinity request.amount other ↔
          if affinity.isNumeric then SplitByScale request.amount other
          else request.amount.toText ≠ other.toText)) := by
  constructor
  · refine forall_congr' fun same => ?_
    exact sameDecision_validate_iff (Decimal.sameValue_iff.mp same) database on
  · intro same
    exact toldApart_iff (Decimal.sameValue_iff.mp same)

/-- Where the column of the offered amounts tells no row apart, the scale is ignored. -/
theorem scaleIgnored_of_column {database : Database} {request : Request} {other : Decimal}
    {located : Statement.Located}
    (found : database.located? "Deckungsbetrag" "Deckungsbetrag" = some located)
    (alike : ¬ToldApart located.column.affinity request.amount other) (on : Date) :
    ScaleIgnored database request other on := by
  have listed (row : Row) :
      (database.cell "Deckungsbetrag" "Deckungsbetrag" row).equals
          (Query.amountOperand request.amount) =
        (database.cell "Deckungsbetrag" "Deckungsbetrag" row).equals (Query.amountOperand other) := by
    simp only [Database.cell, found, Statement.Located.read]
    by_contra apart
    exact alike ⟨_, apart⟩
  have offer : database.isOffer request.coverageType request.amount =
      database.isOffer request.coverageType other := by
    funext row
    simp only [Database.isOffer, listed]
  intro same
  rw [sameDecision_validate_iff (Decimal.sameValue_iff.mp same)]
  intro _
  simp only [Database.AmountOffered, Database.PriceValid, offer, and_self]

/-- The first whole number that no double is. -/
def beyondDoubles : Decimal :=
  { Sample.tenThousand with mantissa := 9007199254740993, mantissa_lt := by decide }

def beyondDoublesWithPlace : Decimal := ⟨false, 90071992547409930, 1, by decide, by decide⟩

def portfolioBeyondDoubles : Database :=
  Sample.filled
    (Sample.filled (Sample.singleContract 1 []) Schema.amounts
      [[.integer 2, .integer 7, .integer 9007199254740993]])
    Schema.prices [[.integer 2, .integer 2, .text "2025-01-01", .text "2025-12-31"]]

theorem not_scaleIgnored_beyond_doubles :
    ¬ScaleIgnored portfolioBeyondDoubles (Request.withAmount Sample.request beyondDoubles)
      beyondDoublesWithPlace Sample.day := by
  intro ignored
  have passes : (validate portfolioBeyondDoubles (Request.withAmount Sample.request beyondDoubles)
      Sample.day).outcome = .ok () := by decide +kernel
  have fails : (validate portfolioBeyondDoubles
      (Request.withAmount (Request.withAmount Sample.request beyondDoubles) beyondDoublesWithPlace)
      Sample.day).outcome = .error (.invalidAmount ⟨7⟩ beyondDoublesWithPlace) := by decide +kernel
  have alike := ignored (by decide)
  rw [passes, fails] at alike
  exact alike

end Underwriting.Gate
