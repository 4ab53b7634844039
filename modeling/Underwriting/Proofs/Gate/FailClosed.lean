import Underwriting.Proofs.Gate.Ledger
import Underwriting.Proofs.Gate.RuleRows
import Underwriting.Store.Sample

/-!
Whether the rejection rules fail closed. The rules of a request are found through its contract and
the customer of the contract. An accepted request passes the amount condition of every rule of its
coverage type if the contract has a customer; if it has none, no rule is found and none is checked.
-/

namespace Underwriting.Gate

open Store

def AmountPasses (database : Database) (amount : Decimal) (ruleRow : Row) : Prop :=
  ∀ condition, (database.cell "Ablehnungsregel" "R_Betrag" ruleRow).value = optionalValue condition →
    AmountRule.violated (condition.getD "") amount = .ok false

def AllRulesPass (database : Database) (request : Request) : Prop :=
  ∀ ruleRow ∈ database.rowsOf "Ablehnungsregel", database.isRuleOf request.coverageType ruleRow →
    AmountPasses database request.amount ruleRow

def CustomerFound (database : Database) (contract : ContractId) : Prop :=
  ∃ contractRow ∈ database.rowsOf "Vertrag", database.isContract contract contractRow ∧
    ∃ customerRow ∈ database.rowsOf "Kunde", database.isCustomerOf contractRow customerRow

def Accepted (database : Database) (request : Request) (on : Date) : Prop :=
  (validate database request on).outcome = .ok () ∨
    ∃ coverage, (createCoverage database request on).result.outcome = .ok coverage

def FailsClosed (database : Database) (request : Request) (on : Date) : Prop :=
  Accepted database request on → AllRulesPass database request

theorem runChecks_of_accepted {database : Database} {request : Request} {on : Date}
    (accepted : Accepted database request on) :
    (runChecks database request on).outcome = .ok () := by
  rcases accepted with validated | ⟨coverage, created⟩
  · rwa [outcome_validate] at validated
  · rcases createCoverage_cases database request on with ⟨failure, failed, _⟩ | ⟨passed, _⟩
    · simp [failed] at created
    · exact passed

/-- An accepted request passes every rule of its coverage type if its contract has a customer. -/
theorem allRulesPass_of_accepted {database : Database} {request : Request} {on : Date}
    (found : CustomerFound database request.contract) (accepted : Accepted database request on) :
    AllRulesPass database request := by
  obtain ⟨contractRow, contractStored, numbered, customerRow, customerStored, linked⟩ := found
  have passed := (runChecks_ok_iff.mp (runChecks_of_accepted accepted)).2
  intro ruleRow ruleStored ofType condition held
  have joins : database.Joins request.coverageType request.contract ruleRow contractRow
      customerRow := ⟨ruleStored, ofType, contractStored, numbered, customerStored, linked⟩
  obtain ⟨dated, decodes, _, amountPasses⟩ := storedFailure?_eq_none (joined_passes passed joins)
  have same := optionalValue_inj (held.symm.trans decodes.amountCondition)
  rw [same]
  exact amountPasses

theorem checkRules_ok_of_no_customer {database : Database} {request : Request}
    {found : List StoredRule}
    (answered : Query.rejectionRules database request.coverageType request.contract = .ok found)
    (missing : ¬CustomerFound database request.contract) :
    (checkRules database request).outcome = .ok () := by
  refine checkRules_ok_iff.mpr ⟨⟨found, answered⟩, ?_⟩
  intro stored member
  obtain ⟨_, contractRow, customerRow, joins, _⟩ := Database.mem_joinedRules.mp member
  exact absurd ⟨contractRow, joins.contractStored, joins.numbered, customerRow,
    joins.customerStored, joins.linked⟩ missing

/-- Rules fail closed exactly if the contract has a customer, the request fails before its rules are
checked, or it would pass all of them. -/
theorem failsClosed_iff (database : Database) (request : Request) (on : Date) :
    FailsClosed database request on ↔
      CustomerFound database request.contract ∨
        (runLookups database request on).outcome ≠ .ok () ∨
        (∃ fault, Query.rejectionRules database request.coverageType request.contract =
          .error fault) ∨
        AllRulesPass database request := by
  constructor
  · intro closed
    by_cases customer : CustomerFound database request.contract
    · exact Or.inl customer
    · by_cases passed : (runLookups database request on).outcome = .ok ()
      · cases answered : Query.rejectionRules database request.coverageType request.contract with
        | error fault => exact Or.inr (Or.inr (Or.inl ⟨fault, rfl⟩))
        | ok found =>
            -- The join has no row, so nothing stands against the request.
            have rulesPass := checkRules_ok_of_no_customer answered customer
            have validated := runChecks_ok_iff.mpr ⟨passed, rulesPass⟩
            exact Or.inr (Or.inr (Or.inr (closed (Or.inl validated))))
      · exact Or.inr (Or.inl passed)
  · rintro (customer | rejected | ⟨fault, unanswered⟩ | allPass) accepted
    · exact allRulesPass_of_accepted customer accepted
    · exact absurd (runChecks_ok_iff.mp (runChecks_of_accepted accepted)).1 rejected
    · have passed := (runChecks_ok_iff.mp (runChecks_of_accepted accepted)).2
      obtain ⟨⟨found, answered⟩, _⟩ := checkRules_ok_iff.mp passed
      rw [unanswered] at answered
      cases answered
    · exact allPass

def ruleFromFiveThousand : Row := [.integer 7, .integer 1, .text ">=5000", .null]

def portfolioWithoutCustomer : Database := Sample.singleContract 99 [ruleFromFiveThousand]

theorem not_failsClosed_without_customer :
    ¬FailsClosed portfolioWithoutCustomer Sample.request Sample.day := by
  intro closed
  have validated : (validate portfolioWithoutCustomer Sample.request Sample.day).outcome = .ok () := by
    decide +kernel
  have passes := closed (Or.inl validated) ruleFromFiveThousand (by decide +kernel)
    (by decide +kernel) (some ">=5000") (by decide +kernel)
  exact absurd passes (by decide +kernel)

end Underwriting.Gate
