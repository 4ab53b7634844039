import Underwriting.Proofs.Text.IntegerLiteral
import Underwriting.Proofs.Text.Trimming
import Underwriting.Rule.Evaluation

/-!
The grammar of age conditions. A text stands for at most one condition; one that stands for none is
refused, as a threshold that is no number if it starts with an operator or has digits only, and as
unknown otherwise.
-/

namespace Underwriting.AgeRule

open Text

def Denotes (text : List Char) : AgeRule → Prop
  | .unrestricted => text = []
  | .atLeast number => ∃ threshold, text = '>' :: '=' :: threshold ∧
      IntegerLiteral (trim threshold) number.toInt
  | .above number => ∃ threshold, text = '>' :: threshold ∧ threshold.head? ≠ some '=' ∧
      IntegerLiteral (trim threshold) number.toInt
  | .atMost number => ∃ threshold, text = '<' :: '=' :: threshold ∧
      IntegerLiteral (trim threshold) number.toInt
  | .below number => ∃ threshold, text = '<' :: threshold ∧ threshold.head? ≠ some '=' ∧
      IntegerLiteral (trim threshold) number.toInt
  | .exactly number => text ≠ [] ∧ AreDigits text ∧ (ofDigits text : Int) = number.toInt

/-- A text that starts with an operator, or has digits only, asks for a number. -/
def AsksForNumber (text : List Char) : Prop :=
  text.head? = some '<' ∨ text.head? = some '>' ∨ AreDigits text

def HoldsAt (age : Int) : AgeRule → Prop
  | .unrestricted => False
  | .atLeast number => age ≥ number.toInt
  | .above number => age > number.toInt
  | .atMost number => age ≤ number.toInt
  | .below number => age < number.toInt
  | .exactly number => age = number.toInt

theorem isSatisfiedBy_iff_holdsAt (age : Int) (rule : AgeRule) :
    rule.isSatisfiedBy age = true ↔ rule.HoldsAt age := by
  cases rule <;> simp [isSatisfiedBy, HoldsAt]

inductive Splits : List Char → (Int32 → AgeRule) → List Char → Prop
  | atLeast (threshold : List Char) : Splits ('>' :: '=' :: threshold) .atLeast threshold
  | above {threshold : List Char} : threshold.head? ≠ some '=' →
      Splits ('>' :: threshold) .above threshold
  | atMost (threshold : List Char) : Splits ('<' :: '=' :: threshold) .atMost threshold
  | below {threshold : List Char} : threshold.head? ≠ some '=' →
      Splits ('<' :: threshold) .below threshold
  | exactly {digits : List Char} : AreDigits digits → Splits digits .exactly digits

theorem head?_ne_of_not_cons {text : List Char} {char : Char}
    (other : ∀ rest, text = char :: rest → False) : text.head? ≠ some char := by
  intro first
  obtain ⟨rest, shape⟩ := List.head?_eq_some_iff.mp first
  exact other rest shape

theorem splitOperator_eq_some_iff {text threshold : List Char} {build : Int32 → AgeRule} :
    splitOperator text = some (build, threshold) ↔ Splits text build threshold := by
  constructor
  · intro split
    unfold splitOperator at split
    split at split
    · cases split
      exact .atLeast threshold
    · rename_i other
      cases split
      exact .above (head?_ne_of_not_cons other)
    · cases split
      exact .atMost threshold
    · rename_i other
      cases split
      exact .below (head?_ne_of_not_cons other)
    · split at split
      · rename_i digits
        cases split
        exact .exactly (List.all_eq_true.mp digits)
      · cases split
  · intro splits
    cases splits with
    | atLeast => rfl
    | atMost => rfl
    | above other =>
        rw [splitOperator]
        rintro rest rfl
        exact other rfl
    | below other =>
        rw [splitOperator]
        rintro rest rfl
        exact other rfl
    | exactly digits =>
        have greater := head?_ne_of_digits digits (show '>'.isDigit = false from rfl)
        have less := head?_ne_of_digits digits (show '<'.isDigit = false from rfl)
        rw [splitOperator, if_pos (List.all_eq_true.mpr digits)]
        all_goals
          rintro rest rfl
          simp at greater less

theorem asksForNumber_iff_splits {text : List Char} :
    AsksForNumber text ↔ ∃ build threshold, Splits text build threshold := by
  constructor
  · rintro (less | greater | digits)
    · obtain ⟨threshold, rfl⟩ := List.head?_eq_some_iff.mp less
      by_cases equal : threshold.head? = some '='
      · obtain ⟨behind, rfl⟩ := List.head?_eq_some_iff.mp equal
        exact ⟨_, _, .atMost behind⟩
      · exact ⟨_, _, .below equal⟩
    · obtain ⟨threshold, rfl⟩ := List.head?_eq_some_iff.mp greater
      by_cases equal : threshold.head? = some '='
      · obtain ⟨behind, rfl⟩ := List.head?_eq_some_iff.mp equal
        exact ⟨_, _, .atLeast behind⟩
      · exact ⟨_, _, .above equal⟩
    · exact ⟨_, _, .exactly digits⟩
  · rintro ⟨build, threshold, splits⟩
    cases splits with
    | atLeast => exact Or.inr (Or.inl rfl)
    | above => exact Or.inr (Or.inl rfl)
    | atMost => exact Or.inl rfl
    | below => exact Or.inl rfl
    | exactly digits => exact Or.inr (Or.inr digits)

theorem splitOperator_eq_none_iff {text : List Char} :
    splitOperator text = none ↔ ¬AsksForNumber text := by
  rw [asksForNumber_iff_splits]
  constructor
  · rintro none ⟨build, threshold, splits⟩
    rw [splitOperator_eq_some_iff.mpr splits] at none
    cases none
  · intro apart
    apply Option.eq_none_iff_forall_ne_some.mpr
    rintro ⟨build, threshold⟩ split
    exact apart ⟨build, threshold, splitOperator_eq_some_iff.mp split⟩

theorem denotes_nil_iff {rule : AgeRule} : Denotes [] rule ↔ rule = .unrestricted := by
  cases rule <;> simp [Denotes]

/-- A text stands for what its operator builds from the number behind it. -/
theorem denotes_iff_splits {text : List Char} (given : text ≠ []) {rule : AgeRule} :
    Denotes text rule ↔ ∃ build threshold, Splits text build threshold ∧
      ∃ number : Int32, rule = build number ∧ IntegerLiteral (trim threshold) number.toInt := by
  constructor
  · intro denotes
    cases rule with
    | unrestricted => exact absurd denotes given
    | atLeast number =>
        obtain ⟨threshold, rfl, literal⟩ := denotes
        exact ⟨_, _, .atLeast threshold, number, rfl, literal⟩
    | above number =>
        obtain ⟨threshold, rfl, other, literal⟩ := denotes
        exact ⟨_, _, .above other, number, rfl, literal⟩
    | atMost number =>
        obtain ⟨threshold, rfl, literal⟩ := denotes
        exact ⟨_, _, .atMost threshold, number, rfl, literal⟩
    | below number =>
        obtain ⟨threshold, rfl, other, literal⟩ := denotes
        exact ⟨_, _, .below other, number, rfl, literal⟩
    | exactly number =>
        obtain ⟨_, digits, same⟩ := denotes
        refine ⟨_, _, .exactly digits, number, rfl, ?_⟩
        rw [trim_of_solid (areSolid_of_digits digits), integerLiteral_digits_iff given digits]
        exact same
  · rintro ⟨build, threshold, splits, number, rfl, literal⟩
    cases splits with
    | atLeast => exact ⟨threshold, rfl, literal⟩
    | above other => exact ⟨threshold, rfl, other, literal⟩
    | atMost => exact ⟨threshold, rfl, literal⟩
    | below other => exact ⟨threshold, rfl, other, literal⟩
    | exactly digits =>
        rw [trim_of_solid (areSolid_of_digits digits), integerLiteral_digits_iff given digits]
          at literal
        exact ⟨given, digits, literal⟩

theorem read_of_denotes {text : List Char} {rule : AgeRule} (denotes : Denotes (trim text) rule) :
    read text = .ok rule := by
  by_cases given : trim text = []
  · rw [given, denotes_nil_iff] at denotes
    simp [read, given, denotes]
  · obtain ⟨build, threshold, splits, number, rfl, literal⟩ := (denotes_iff_splits given).mp denotes
    simp [read, given, splitOperator_eq_some_iff.mpr splits, int32?_eq_some_iff.mpr literal]

theorem read_of_no_number {text : List Char} (asks : AsksForNumber (trim text))
    (refused : ∀ rule, ¬Denotes (trim text) rule) :
    read text = .error (.ageThreshold (String.ofList (trim text))) := by
  have given : trim text ≠ [] := fun nothing => refused .unrestricted nothing
  obtain ⟨build, threshold, splits⟩ := asksForNumber_iff_splits.mp asks
  have noNumber : int32? (trim threshold) = none := by
    apply Option.eq_none_iff_forall_ne_some.mpr
    intro number found
    have literal := int32?_eq_some_iff.mp found
    exact refused (build number)
      ((denotes_iff_splits given).mpr ⟨build, threshold, splits, number, rfl, literal⟩)
  simp [read, given, splitOperator_eq_some_iff.mpr splits, noNumber]

theorem read_of_unknown {text : List Char} (unknown : ¬AsksForNumber (trim text)) :
    read text = .error (.unrecognizedAge (String.ofList (trim text))) := by
  have given : trim text ≠ [] := by
    intro nothing
    exact unknown (Or.inr (Or.inr (by simp [nothing, AreDigits])))
  simp [read, given, splitOperator_eq_none_iff.mpr unknown]

theorem exists_error_of_not_denotes {text : List Char}
    (refused : ∀ rule, ¬Denotes (trim text) rule) :
    ∃ fault, read text = .error fault ∧
      (AsksForNumber (trim text) ∧ fault = .ageThreshold (String.ofList (trim text)) ∨
        ¬AsksForNumber (trim text) ∧ fault = .unrecognizedAge (String.ofList (trim text))) := by
  by_cases asks : AsksForNumber (trim text)
  · exact ⟨_, read_of_no_number asks refused, Or.inl ⟨asks, rfl⟩⟩
  · exact ⟨_, read_of_unknown asks, Or.inr ⟨asks, rfl⟩⟩

theorem not_denotes_of_error {text : List Char} {fault : RuleFault}
    (failed : read text = .error fault) (rule : AgeRule) : ¬Denotes (trim text) rule := by
  intro denotes
  rw [read_of_denotes denotes] at failed
  cases failed

theorem read_eq_ok_iff {text : List Char} {rule : AgeRule} :
    read text = .ok rule ↔ Denotes (trim text) rule := by
  constructor
  · intro accepted
    by_cases known : ∃ stated, Denotes (trim text) stated
    · obtain ⟨stated, denotes⟩ := known
      rw [read_of_denotes denotes] at accepted
      cases accepted
      exact denotes
    · obtain ⟨fault, failed, _⟩ := exists_error_of_not_denotes (not_exists.mp known)
      rw [failed] at accepted
      cases accepted
  · exact read_of_denotes

theorem read_eq_error_iff {text : List Char} {fault : RuleFault} :
    read text = .error fault ↔ (∀ rule, ¬Denotes (trim text) rule) ∧
      (AsksForNumber (trim text) ∧ fault = .ageThreshold (String.ofList (trim text)) ∨
        ¬AsksForNumber (trim text) ∧ fault = .unrecognizedAge (String.ofList (trim text))) := by
  constructor
  · intro failed
    have refused := not_denotes_of_error failed
    obtain ⟨same, again, cause⟩ := exists_error_of_not_denotes refused
    rw [failed] at again
    cases again
    exact ⟨refused, cause⟩
  · rintro ⟨refused, ⟨asks, rfl⟩ | ⟨unknown, rfl⟩⟩
    · exact read_of_no_number asks refused
    · exact read_of_unknown unknown

theorem outcome_violated_of_ok {text : String} {rule : AgeRule} (accepted : ofText text = .ok rule)
    (age : Int) : (violated text age).outcome = .ok (rule.isSatisfiedBy age) := by
  rw [violated, accepted]
  rfl

theorem outcome_violated_of_error {text : String} {fault : RuleFault}
    (refused : ofText text = .error fault) (age : Int) :
    (violated text age).outcome = .ok false := by
  rw [violated, refused]
  exact Traced.outcome_bind _ _

theorem outcome_violated (text : String) (age : Int) :
    ∃ verdict, (violated text age).outcome = .ok verdict ∧
      (verdict = true ↔ ∃ rule, ofText text = .ok rule ∧ rule.HoldsAt age) := by
  cases found : ofText text with
  | ok rule =>
      refine ⟨rule.isSatisfiedBy age, outcome_violated_of_ok found age, ?_⟩
      simp [isSatisfiedBy_iff_holdsAt]
  | error fault => exact ⟨false, outcome_violated_of_error found age, by simp⟩

/-- Which texts stand for which condition, how the others are refused, and that a text is violated
by an age exactly if it stands for a comparison that holds of the age. -/
theorem age_texts_classified (text : String) :
    let given := trim text.toList
    (∀ rule, ofText text = .ok rule ↔ Denotes given rule) ∧
      (∀ fault, ofText text = .error fault ↔ (∀ rule, ¬Denotes given rule) ∧
        (AsksForNumber given ∧ fault = .ageThreshold (String.ofList given) ∨
          ¬AsksForNumber given ∧ fault = .unrecognizedAge (String.ofList given))) ∧
      ∀ age, ∃ verdict, (violated text age).outcome = .ok verdict ∧
        (verdict = true ↔ ∃ rule, Denotes given rule ∧ rule.HoldsAt age) := by
  intro given
  refine ⟨fun rule => read_eq_ok_iff, fun fault => read_eq_error_iff, ?_⟩
  intro age
  obtain ⟨verdict, answered, meaning⟩ := outcome_violated text age
  refine ⟨verdict, answered, ?_⟩
  rw [meaning]
  simp only [ofText, read_eq_ok_iff]
  rfl

example : ofText " <= +65 " = .ok (.atMost 65) := by decide

end Underwriting.AgeRule
