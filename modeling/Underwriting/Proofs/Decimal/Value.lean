import Underwriting.Decimal.Literal
import Underwriting.Proofs.Number.Rounding
import Underwriting.Proofs.Text.Digits

/-!
The rational number that a decimal stands for, and its text. Two decimals are of one value exactly
if they stand for one number. A text of digits with a point among them is read as the number of its
digits at the scale of its places, so a decimal reads back from its text, up to the minus of a zero.
-/

namespace Underwriting

open Text

def FitsDigits (count : Nat) (number : ℚ) : Prop :=
  ∃ digits exponent : Int, |digits| < 10 ^ count ∧ number = digits * 10 ^ exponent

theorem fitsDigits_abs {count : Nat} {number : ℚ} (fits : FitsDigits count number) :
    FitsDigits count |number| := by
  obtain ⟨digits, exponent, small, rfl⟩ := fits
  refine ⟨|digits|, exponent, by rwa [abs_abs], ?_⟩
  rw [abs_mul, abs_of_pos (zpow_pos (by norm_num : (0 : ℚ) < 10) exponent), Int.cast_abs]

theorem fitsDigits_mul_pow {count : Nat} {number : ℚ} (fits : FitsDigits count number)
    (exponent : Int) : FitsDigits count (number * 10 ^ exponent) := by
  obtain ⟨digits, place, small, rfl⟩ := fits
  exact ⟨digits, place + exponent, small, by rw [zpow_add₀ (by norm_num), mul_assoc]⟩

namespace Decimal

def value (number : Decimal) : ℚ := number.signedMantissa / 10 ^ number.scale

theorem sameValue_iff {left right : Decimal} :
    left.sameValue right = true ↔ left.value = right.value := by
  have leftPositive : (10 : ℚ) ^ left.scale ≠ 0 := by positivity
  have rightPositive : (10 : ℚ) ^ right.scale ≠ 0 := by positivity
  unfold sameValue value
  rw [beq_iff_eq, div_eq_div_iff leftPositive rightPositive, ← cast_powerOfTen, ← cast_powerOfTen]
  exact_mod_cast Iff.rfl

theorem atMost_iff {left right : Decimal} :
    left.atMost right = true ↔ left.value ≤ right.value := by
  have leftPositive : (0 : ℚ) < 10 ^ left.scale := by positivity
  have rightPositive : (0 : ℚ) < 10 ^ right.scale := by positivity
  unfold atMost value
  rw [decide_eq_true_iff, div_le_div_iff₀ leftPositive rightPositive, ← cast_powerOfTen,
    ← cast_powerOfTen]
  exact_mod_cast Iff.rfl

@[simp] theorem value_unsignZero (number : Decimal) : number.unsignZero.value = number.value := by
  rw [value, signedMantissa_unsignZero]
  rfl

theorem unsignZero_eq_self {number : Decimal}
    (unsigned : number.negative = true → number.mantissa ≠ 0) : number.unsignZero = number := by
  by_cases zero : number.mantissa = 0
  · have plain : number.negative = false := by
      cases minus : number.negative with
      | false => rfl
      | true => exact absurd zero (unsigned minus)
    cases number
    simp_all [unsignZero]
  · exact unsignZero_of_mantissa_ne_zero zero

theorem value_eq (number : Decimal) :
    number.value = if number.negative then -((number.mantissa : ℚ) / 10 ^ number.scale)
      else (number.mantissa : ℚ) / 10 ^ number.scale := by
  unfold value signedMantissa
  cases number.negative
  · simp
  · simp [neg_div]

theorem abs_value (number : Decimal) :
    |number.value| = (number.mantissa : ℚ) / 10 ^ number.scale := by
  have size : |(number.mantissa : ℚ) / 10 ^ number.scale| =
      (number.mantissa : ℚ) / 10 ^ number.scale := abs_of_nonneg (by positivity)
  rw [value_eq]
  split
  · rw [abs_neg, size]
  · exact size

theorem value_eq_zero_iff {number : Decimal} : number.value = 0 ↔ number.mantissa = 0 := by
  rw [← abs_eq_zero, abs_value, div_eq_zero_iff]
  simp

theorem abs_value_lt (number : Decimal) : |number.value| < 2 ^ 96 := by
  have below : (number.mantissa : ℚ) < 2 ^ 96 := by
    rw [← cast_powerOfTwo]
    exact_mod_cast number.mantissa_lt
  rw [abs_value, div_lt_iff₀ (by positivity)]
  have one : (1 : ℚ) ≤ 10 ^ number.scale := one_le_pow₀ (by norm_num)
  nlinarith

theorem le_abs_value {number : Decimal} (nonzero : number.value ≠ 0) :
    (10 : ℚ) ^ (-28 : Int) ≤ |number.value| := by
  have one : (1 : ℚ) ≤ number.mantissa := by
    exact_mod_cast Nat.one_le_iff_ne_zero.mpr (mt value_eq_zero_iff.mpr nonzero)
  have places : (10 : ℚ) ^ number.scale ≤ 10 ^ 28 :=
    pow_le_pow_right₀ (by norm_num) number.scale_le
  rw [abs_value, le_div_iff₀ (by positivity)]
  calc (10 : ℚ) ^ (-28 : Int) * 10 ^ number.scale ≤ 10 ^ (-28 : Int) * 10 ^ 28 :=
        mul_le_mul_of_nonneg_left places (by positivity)
    _ = 1 := by norm_num
    _ ≤ number.mantissa := one

def wholeChars (number : Decimal) : List Char :=
  let digits := paddedDigits (number.scale + 1) number.mantissa
  digits.take (digits.length - number.scale)

def fractionChars (number : Decimal) : List Char :=
  let digits := paddedDigits (number.scale + 1) number.mantissa
  digits.drop (digits.length - number.scale)

def signChars (negative : Bool) : List Char := if negative then ['-'] else []

theorem toChars_eq (number : Decimal) :
    number.toChars = signChars number.negative ++ number.wholeChars ++
      if number.scale = 0 then [] else '.' :: number.fractionChars := rfl

theorem wholeChars_append_fractionChars (number : Decimal) :
    number.wholeChars ++ number.fractionChars = paddedDigits (number.scale + 1) number.mantissa :=
  List.take_append_drop _ _

theorem areDigits_chars (number : Decimal) :
    AreDigits number.wholeChars ∧ AreDigits number.fractionChars := by
  have all := areDigits_paddedDigits (number.scale + 1) number.mantissa
  exact ⟨fun _ member => all _ (List.mem_of_mem_take member),
    fun _ member => all _ (List.mem_of_mem_drop member)⟩

theorem ofDigits_chars (number : Decimal) :
    ofDigits (number.wholeChars ++ number.fractionChars) = number.mantissa := by
  rw [wholeChars_append_fractionChars, ofDigits_paddedDigits]

theorem length_paddedDigits (number : Decimal) :
    number.scale + 1 ≤ (paddedDigits (number.scale + 1) number.mantissa).length := by
  rw [paddedDigits, List.length_leftpad]
  exact le_max_left _ _

theorem length_fractionChars (number : Decimal) :
    number.fractionChars.length = number.scale := by
  have := number.length_paddedDigits
  simp only [fractionChars, List.length_drop]
  omega

theorem wholeChars_ne_nil (number : Decimal) : number.wholeChars ≠ [] := by
  have := number.length_paddedDigits
  apply List.ne_nil_of_length_pos
  simp only [wholeChars, List.length_take]
  omega

theorem ofDigits_wholeChars (number : Decimal) :
    ofDigits number.wholeChars = number.mantissa / 10 ^ number.scale := by
  have := number.length_paddedDigits
  have places : (paddedDigits (number.scale + 1) number.mantissa).length -
      ((paddedDigits (number.scale + 1) number.mantissa).length - number.scale) = number.scale := by
    omega
  rw [wholeChars, ofDigits_take (areDigits_paddedDigits _ _), ofDigits_paddedDigits, places]

end Decimal

end Underwriting
