import Underwriting.Proofs.Decimal.PlainLiteral
import Underwriting.Proofs.Rule.AmountGrammar

/-!
Amount floors as numbers. A floor written out in digits is reached by exactly the amounts that are at
least the number of the digits, at whatever scales the two are written.
-/

namespace Underwriting.AmountRule

open Text Decimal

theorem isSatisfiedBy_atLeast (floor amount : Decimal) :
    (AmountRule.atLeast floor).isSatisfiedBy amount = decide (floor.value ≤ amount.value) := by
  rw [isSatisfiedBy, Bool.eq_iff_iff, atMost_iff, decide_eq_true_iff]

variable {front gap back : List Char}

theorem read_floorLiteral (literal : PlainLiteral) (fits : literal.Fits) (frontBlank : AreBlank front)
    (gapBlank : AreBlank gap) (backBlank : AreBlank back) :
    read (front ++ '>' :: '=' :: (gap ++ literal.toChars ++ back)) =
      .ok (.atLeast (literal.toDecimal fits)) := by
  have behind : trim (gap ++ literal.toChars ++ back) = literal.toChars := by
    rw [trim_append_blank _ backBlank, trim_blank_append gapBlank,
      trim_of_solid literal.areSolid_toChars]
  have noSeparator : '_' ∉ gap ++ literal.toChars ++ back := by
    apply no_separator_of_isLiteralChar
    rw [behind]
    intro char member
    exact PlainLiteral.isLiteralChar_of_mem member
  rw [read_eq_ok_iff, trim_blank_append frontBlank, trim_floor, denotes_floor_iff, behind]
  exact ⟨literal.read_toChars fits, noSeparator⟩

/-- A floor is reached exactly by the amounts that are not below its number. -/
theorem amount_floors_exact (literal : PlainLiteral) (fits : literal.Fits)
    (frontBlank : AreBlank front) (gapBlank : AreBlank gap) (backBlank : AreBlank back)
    (amount : Decimal) :
    violated (String.ofList (front ++ '>' :: '=' :: (gap ++ literal.toChars ++ back))) amount =
      .ok (decide (amount.value ≥ literal.value)) := by
  rw [violated, ofText, String.toList_ofList, read_floorLiteral literal fits frontBlank gapBlank backBlank,
    Except.map, isSatisfiedBy_atLeast, literal.value_toDecimal fits]

theorem least_floor_reached :
    let literal : PlainLiteral :=
      ⟨.minus, ['7'], some "9228162514264337593543950335".toList, by decide, by decide, by decide⟩
    let amount : Decimal := ⟨true, 7, 0, by decide, by decide⟩
    literal.Fits ∧ AreBlank ['\t', ' '] ∧
      violated ">=\t -7.9228162514264337593543950335" amount = .ok true := by
  intro literal amount
  have fits : literal.Fits := ⟨by decide, by decide⟩
  have blank : AreBlank ['\t', ' '] := by simp [AreBlank, isBlank]
  have empty : AreBlank [] := by simp [AreBlank]
  refine ⟨fits, blank, ?_⟩
  have number : ofDigits literal.digits = 79228162514264337593543950335 := by decide
  have places : literal.fraction.length = 28 := by decide
  have reached : amount.value ≥ literal.value := by
    rw [PlainLiteral.value, number, places]
    norm_num [amount, value, signedMantissa, literal]
  have text : ">=\t -7.9228162514264337593543950335" =
      String.ofList ([] ++ '>' :: '=' :: (['\t', ' '] ++ literal.toChars ++ [])) := by decide
  rw [text, amount_floors_exact literal fits empty blank empty amount, decide_eq_true reached]

end Underwriting.AmountRule
