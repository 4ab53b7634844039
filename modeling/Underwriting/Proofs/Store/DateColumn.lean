import Underwriting.Proofs.Calendar.DateText
import Underwriting.Proofs.Store.AmountNumeral
import Underwriting.Proofs.Store.ValueOrder
import Underwriting.Store.Query

/-!
Dates in columns. The text of a date is no number, so no column converts it, and two dates are compared
by their texts whatever the columns lean to.
-/

namespace Underwriting.Store

open Text Binary64

theorem isSpace_of_mem_date {date : Date} {char : Char} (member : char ∈ date.toChars) :
    isSpace char = false := by
  have padded {width number : Nat} (inDigits : char ∈ paddedDigits width number) :
      isSpace char = false :=
    isSpace_of_plain (Or.inr (Or.inr (areDigits_paddedDigits width number char inDigits)))
  have signed (inSign : char ∈ date.signChars) : isSpace char = false := by
    by_cases plain : date.HasPlainYear
    · simp [Date.signChars_of_plain plain] at inSign
    · rcases Date.signChars_of_signed plain with sign | sign
      all_goals
        rw [sign, List.mem_singleton] at inSign
        subst inSign
        rfl
  rw [Date.toChars_eq] at member
  simp only [List.mem_append, List.mem_cons] at member
  rcases member with inSign | inYear | rfl | inMonth | rfl | inDay
  · exact signed inSign
  · exact padded inYear
  · rfl
  · exact padded inMonth
  · rfl
  · exact padded inDay

theorem parseSign_date (date : Date) (rest : List Char) :
    (Literal.parseSign (date.signChars ++ (paddedDigits 4 date.year.natAbs ++ rest))).2 =
      paddedDigits 4 date.year.natAbs ++ rest := by
  have digits := areDigits_paddedDigits 4 date.year.natAbs
  have given := paddedDigits_ne_nil 4 date.year.natAbs
  by_cases plain : date.HasPlainYear
  · rw [Date.signChars_of_plain plain, List.nil_append, parseSign_eq]
    have unsigned := Decimal.splitSign_signChars false digits given rest
    exact congrArg Prod.snd unsigned
  · rcases Date.signChars_of_signed plain with sign | sign
    · rw [sign]
      rfl
    · rw [sign]
      rfl

/-- A date is no number: what follows its year is neither a point nor an exponent. -/
theorem literal?_date (date : Date) : literal? date.toText = none := by
  have spaceless : ∀ char ∈ date.toChars, isSpace char = false :=
    fun char member => isSpace_of_mem_date member
  have digits := areDigits_paddedDigits 4 date.year.natAbs
  rw [literal?, Date.toText, String.toList_ofList, stripSpaces_of_none spaceless, Date.toChars_eq,
    Literal.ofChars?]
  simp only [parseSign_date, List.takeWhile_append_of_pos digits, List.dropWhile_append_of_pos digits]
  simp [Literal.parseFraction, Literal.parseExponent?, Char.isDigit, paddedDigits_ne_nil]

theorem converted_date (affinity : Affinity) (date : Date) :
    Operand.converted affinity (.text date.toText) = .text date.toText := by
  unfold Operand.converted
  split
  · simp only [Value.ofNumericText, literal?_date]
  · split <;> rfl

/-- Dates are compared by their texts. -/
theorem atMost_dates_iff {left right : Operand} {first second : Date}
    (leftHeld : left.value = .text first.toText) (rightHeld : right.value = .text second.toText) :
    left.atMost right = true ↔ first.toText ≤ second.toText := by
  rw [← compareTexts_ne_gt_iff, Operand.atMost, Operand.order, leftHeld, rightHeld, converted_date,
    converted_date, Value.order]
  cases Value.compareTexts first.toText second.toText <;> decide

end Underwriting.Store
