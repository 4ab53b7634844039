import Underwriting.Proofs.Rule.AgeGrammar
import Underwriting.Proofs.Rule.AmountFloor

/-!
Printed conditions. A condition that was read from a text is printed as a text that the same ages and
amounts violate. Comparisons are read back as themselves, and a floor as the same number at the same
scale; what never matches is printed as a text that never matches either.
-/

namespace Underwriting

open Text

namespace AgeRule

theorem areSolid_integerChars (number : Int) : AreSolid (integerChars number) := by
  intro char member
  rcases mem_integerChars member with rfl | digit
  · rfl
  · exact isBlank_of_isDigit digit

theorem head?_integerChars_ne_equal (number : Int) : (integerChars number).head? ≠ some '=' := by
  intro first
  rcases mem_integerChars (List.mem_of_mem_head? first) with minus | digit
  · simp at minus
  · simp [Char.isDigit] at digit

theorem integerLiteral_trim (number : Int32) :
    IntegerLiteral (trim (integerChars number.toInt)) number.toInt := by
  rw [trim_of_solid (areSolid_integerChars number.toInt)]
  exact integerLiteral_integerChars number.toInt

theorem trim_printed {text : String} (operator : List Char) (number : Int)
    (solid : AreSolid operator) (chars : text.toList = operator ++ integerChars number) :
    trim text.toList = operator ++ integerChars number := by
  rw [chars]
  apply trim_of_solid
  intro char member
  rcases List.mem_append.mp member with inOperator | inNumber
  · exact solid char inOperator
  · exact areSolid_integerChars number char inNumber

theorem integerChars_of_nonneg {number : Int} (nonneg : 0 ≤ number) :
    integerChars number = digitsOf number.toNat := by
  obtain ⟨size, rfl⟩ := Int.eq_ofNat_of_zero_le nonneg
  rfl

/-- A comparison is printed as a text that stands for it, unless it is a bare number below zero. -/
theorem denotes_toText {rule : AgeRule} (compares : rule ≠ .unrestricted)
    (bare : ∀ number, rule = .exactly number → 0 ≤ number.toInt) :
    Denotes (trim rule.toText.toList) rule := by
  cases rule with
  | unrestricted => exact absurd rfl compares
  | atLeast number =>
      rw [trim_printed ['>', '='] number.toInt (by decide) (by simp [toText, integerText])]
      exact ⟨_, rfl, integerLiteral_trim number⟩
  | above number =>
      rw [trim_printed ['>'] number.toInt (by decide) (by simp [toText, integerText])]
      exact ⟨_, rfl, head?_integerChars_ne_equal _, integerLiteral_trim number⟩
  | atMost number =>
      rw [trim_printed ['<', '='] number.toInt (by decide) (by simp [toText, integerText])]
      exact ⟨_, rfl, integerLiteral_trim number⟩
  | below number =>
      rw [trim_printed ['<'] number.toInt (by decide) (by simp [toText, integerText])]
      exact ⟨_, rfl, head?_integerChars_ne_equal _, integerLiteral_trim number⟩
  | exactly number =>
      have nonneg := bare number rfl
      rw [trim_printed [] number.toInt (by decide) (by simp [toText, integerText]),
        List.nil_append, integerChars_of_nonneg nonneg]
      refine ⟨digitsOf_ne_nil _, areDigits_digitsOf _, ?_⟩
      rw [ofDigits_digitsOf, Int.toNat_of_nonneg nonneg]

theorem exactly_nonneg {text : String} {number : Int32}
    (accepted : ofText text = .ok (.exactly number)) : 0 ≤ number.toInt := by
  obtain ⟨_, _, same⟩ := read_eq_ok_iff.mp accepted
  omega

theorem ofText_toText {text : String} {rule : AgeRule} (accepted : ofText text = .ok rule)
    (compares : rule ≠ .unrestricted) : ofText rule.toText = .ok rule := by
  apply read_of_denotes
  apply denotes_toText compares
  rintro number rfl
  exact exactly_nonneg accepted

theorem outcome_violated_toText {text : String} {rule : AgeRule} (accepted : ofText text = .ok rule)
    (age : Int) : (violated rule.toText age).outcome = .ok (rule.isSatisfiedBy age) := by
  by_cases compares : rule = .unrestricted
  · subst compares
    have unread : ofText "-" = .error (.unrecognizedAge "-") := by decide
    exact outcome_violated_of_error unread age
  · exact outcome_violated_of_ok (ofText_toText accepted compares) age

end AgeRule

namespace AmountRule

theorem amountOfText_toText (amount : Decimal) :
    amountOfText amount.toText = .ok amount.unsignZero := by
  rw [amountOfText_eq_ok_iff, Decimal.toText, String.toList_ofList,
    trim_of_solid amount.areSolid_toChars]
  exact amount.read_toChars

theorem no_separator_toText (amount : Decimal) : '_' ∉ amount.toText.toList := by
  rw [Decimal.toText, String.toList_ofList]
  intro member
  have known := Decimal.isLiteralChar_of_mem_toChars member
  simp [Decimal.IsLiteralChar, Char.isDigit] at known

/-- A floor reads back from print; a zero loses its minus. -/
theorem ofText_toText_atLeast (floor : Decimal) :
    ofText (AmountRule.atLeast floor).toText = .ok (.atLeast floor.unsignZero) :=
  (ofText_floor_iff _ _).mpr ⟨amountOfText_toText floor, no_separator_toText floor⟩

theorem denotes_marked {kept : List Char} (given : kept ≠ []) (trimmed : trim kept = kept)
    (noFloor : ¬['>', '='] <+: kept) {mark : List Char} {last : Char} (long : 3 ≤ mark.length)
    (apart : mark.head? ≠ some '=') (solid : isBlank last = false) :
    Denotes (trim (kept ++ (mark ++ [last])))
      (.unrecognized (String.ofList (kept ++ (mark ++ [last])))) := by
  obtain ⟨first, rest, firstSolid, shape⟩ := exists_solid_of_trim_ne_nil (trimmed.symm ▸ given)
  rw [trimmed] at shape
  subst shape
  have whole : trim (first :: rest ++ (mark ++ [last])) = first :: rest ++ (mark ++ [last]) := by
    rw [List.cons_append, trim_cons_solid firstSolid, ← List.append_assoc,
      trimEnd_append_solid _ solid]
  rw [whole]
  refine ⟨by simp, ?_, ?_, rfl⟩
  · intro placed
    have length := congrArg List.length placed
    simp at length
    omega
  · rintro ⟨behind, same⟩
    cases rest with
    | nil =>
        cases mark with
        | nil => simp at long
        | cons front others =>
            simp only [List.cons_append, List.nil_append, List.cons.injEq] at same
            obtain ⟨-, rfl, -⟩ := same
            exact apart rfl
    | cons second others =>
        simp only [List.cons_append, List.cons.injEq] at same
        obtain ⟨rfl, rfl, -⟩ := same
        exact noFloor ⟨others, rfl⟩

theorem exists_ofText_toText_unrecognized {text kept : String}
    (accepted : ofText text = .ok (.unrecognized kept)) :
    ∃ again, ofText (AmountRule.unrecognized kept).toText = .ok (.unrecognized again) := by
  obtain ⟨given, _, noFloor, rfl⟩ := read_eq_ok_iff.mp accepted
  let mark := [' ', '(', 'i', 'g', 'n', 'o', 'r', 'e', 'd']
  have chars : (AmountRule.unrecognized (String.ofList (trim text.toList))).toText.toList =
      trim text.toList ++ (mark ++ [')']) := by
    simp [toText, mark]
  have long : 3 ≤ mark.length := by decide
  have apart : mark.head? ≠ some '=' := by decide
  have denotes := denotes_marked given (trim_trim _) noFloor long apart (rfl : isBlank ')' = false)
  rw [← chars] at denotes
  exact ⟨_, read_of_denotes denotes⟩

theorem violated_toText {text : String} {rule : AmountRule} (accepted : ofText text = .ok rule)
    (amount : Decimal) : violated rule.toText amount = .ok (rule.isSatisfiedBy amount) := by
  cases rule with
  | unrestricted =>
      have read : ofText "-" = .ok (.unrecognized "-") := by decide
      change (ofText "-").map _ = _
      rw [read]
      rfl
  | unrecognized kept =>
      obtain ⟨again, read⟩ := exists_ofText_toText_unrecognized accepted
      rw [violated, read]
      rfl
  | atLeast floor =>
      rw [violated, ofText_toText_atLeast, Except.map, isSatisfiedBy_atLeast, isSatisfiedBy_atLeast,
        Decimal.value_unsignZero]

end AmountRule

/-- What is printed of a condition that was read means what was read: the same ages or amounts violate
it. A comparison is read back as itself and a floor as the same number at the same scale; only the
minus of a zero gets lost. -/
theorem printed_conditions_keep_meaning (text : String) :
    (∀ rule, AgeRule.ofText text = .ok rule →
        (∀ age, (AgeRule.violated rule.toText age).outcome = .ok (rule.isSatisfiedBy age)) ∧
          (rule ≠ .unrestricted → AgeRule.ofText rule.toText = .ok rule)) ∧
      ∀ rule, AmountRule.ofText text = .ok rule →
        (∀ amount, AmountRule.violated rule.toText amount = .ok (rule.isSatisfiedBy amount)) ∧
          ∀ floor, rule = .atLeast floor →
            AmountRule.ofText rule.toText = .ok (.atLeast floor.unsignZero) ∧
              floor.unsignZero.sameValue floor = true ∧ floor.unsignZero.scale = floor.scale := by
  constructor
  · intro rule accepted
    exact ⟨AgeRule.outcome_violated_toText accepted, AgeRule.ofText_toText accepted⟩
  · intro rule accepted
    refine ⟨AmountRule.violated_toText accepted, ?_⟩
    rintro floor rfl
    exact ⟨AmountRule.ofText_toText_atLeast floor,
      Decimal.sameValue_iff.mpr floor.value_unsignZero, rfl⟩

theorem zero_floor_keeps_meaning :
    let floor : Decimal := ⟨true, 0, 28, by decide, by decide⟩
    AmountRule.ofText " >= -0.4e-28" = .ok (.atLeast floor) ∧
      AmountRule.violated ">=-0.0000000000000000000000000000" Decimal.zero = .ok true ∧
      AmountRule.ofText ">=-0.0000000000000000000000000000" = .ok (.atLeast floor.unsignZero) := by
  intro floor
  have accepted : AmountRule.ofText " >= -0.4e-28" = .ok (.atLeast floor) := by decide +kernel
  have printed : (AmountRule.atLeast floor).toText = ">=-0.0000000000000000000000000000" := by
    decide +kernel
  obtain ⟨meant, again⟩ := (printed_conditions_keep_meaning " >= -0.4e-28").2 _ accepted
  rw [printed] at meant again
  exact ⟨accepted, meant Decimal.zero, (again floor rfl).1⟩

end Underwriting
