import Underwriting.Proofs.Store.PairKeys
import Underwriting.Proofs.Store.ShownNumeral
import Underwriting.Store.Holding
import Underwriting.Store.Query

/-!
Amounts in columns. An amount reaches the store as a text that keeps its scale; a column that leans to
numbers takes a text without a point for a whole number of 64 bits and any other text for a real
number. So amounts of one value are told apart by their scale where no real number is the whole number,
and a column keeps the value of an amount only where the number that it makes of it shows that value.
-/

namespace Underwriting.Store

open Text Binary64

def FitsInt64 (number : Int) : Prop :=
  Int64.minValue.toInt ≤ number ∧ number ≤ Int64.maxValue.toInt

instance (number : Int) : Decidable (FitsInt64 number) := inferInstanceAs (Decidable (_ ∧ _))

theorem fitsInt64_iff {number : Int} :
    FitsInt64 number ↔ -9223372036854775808 ≤ number ∧ number ≤ 9223372036854775807 := Iff.rfl

theorem FitsInt64.toInt_ofInt {number : Int} (fits : FitsInt64 number) :
    (Int64.ofInt number).toInt = number := by
  obtain ⟨low, high⟩ := fitsInt64_iff.mp fits
  exact Int64.toInt_ofInt_of_le (by omega) (by omega)

theorem realOf_of_int64 {amount : Decimal} {number : Int} (fits : FitsInt64 number)
    (same : amount.value = number) : realOf (amountLiteral amount) = .ofRat number := by
  have bounds := fitsInt64_iff.mp fits
  exact realOf_of_whole (by omega) same

theorem value_of_scale_zero {amount : Decimal} (whole : amount.scale = 0) :
    amount.value = amount.signedMantissa := by
  rw [Decimal.value, whole, pow_zero, div_one]

theorem ofNumericText_toText (amount : Decimal) :
    Value.ofNumericText amount.toText =
      if amount.scale = 0 ∧ FitsInt64 amount.signedMantissa then
        .integer (Int64.ofInt amount.signedMantissa)
      else .real (realOf (amountLiteral amount)) := by
  rw [Value.ofNumericText, literal?_toText]
  by_cases whole : amount.scale = 0
  · have digits : ofDigits amount.wholeChars = amount.mantissa := by
      rw [Decimal.ofDigits_wholeChars, whole, Nat.pow_zero, Nat.div_one]
    simp [amountLiteral, whole, digits, FitsInt64, Decimal.signedMantissa]
  · simp [amountLiteral, whole]

/-! ### Amounts of one value in comparisons -/

theorem compareReal_eq_iff (left right : Binary64) :
    Value.compareReal left right = .eq ↔ left = right := by
  cases left with
  | finite left =>
      cases right with
      | finite right =>
          have irreflexive : ¬right < right := by
            rw [← Dyadic.toRat_lt_toRat_iff]
            exact lt_irrefl _
          simp only [Value.compareReal, Value.compareDyadic, finite.injEq]
          split
          · rename_i below
            refine ⟨by simp, ?_⟩
            rintro rfl
            exact absurd below irreflexive
          · split <;> simp_all
      | infinite negative => cases negative <;> simp [Value.compareReal]
  | infinite negative =>
      cases right with
      | finite right => cases negative <;> simp [Value.compareReal]
      | infinite other => cases negative <;> cases other <;> simp [Value.compareReal]

theorem order_integer_eq_iff {value : Value} {number : Int64} :
    value.order (.integer number) = some .eq ↔
      value = .integer number ∨ value = .real (Value.pointOf number) := by
  cases value <;>
    simp [Value.order, compareReal_eq_iff, Int64.toInt_inj]

theorem order_real_pointOf_eq_iff {value : Value} {number : Int64} :
    value.order (.real (Value.pointOf number)) = some .eq ↔
      value = .integer number ∨ value = .real (Value.pointOf number) := by
  have points (other : Int64) : Value.pointOf other = Value.pointOf number ↔ other = number := by
    rw [← Int64.toInt_inj, Value.pointOf, Value.pointOf, finite.injEq, ← Dyadic.toRat_inj,
      toRat_ofInt, toRat_ofInt, Int.cast_inj]
  cases value <;> simp [Value.order, compareReal_eq_iff, points]

theorem order_text_eq_iff {value : Value} {content : String} :
    value.order (.text content) = some .eq ↔ value = .text content := by
  cases value <;> simp [Value.order, Value.compareTexts_eq_iff]

theorem FitsInt64.ofRat_eq {number : Int} (fits : FitsInt64 number) :
    Binary64.ofRat number = .finite (nearestDyadic significantBits leastExponent number) := by
  apply ofRat_of_lt
  obtain ⟨low, high⟩ := fitsInt64_iff.mp fits
  have bounded : |number| ≤ 9223372036854775808 := abs_le.mpr ⟨low, by omega⟩
  calc |(number : ℚ)| ≤ 9223372036854775808 := by exact_mod_cast bounded
    _ < 2 ^ (64 : Int) := by norm_num
    _ ≤ 2 ^ (1023 : Int) := zpow_le_zpow_right₀ one_le_two (by norm_num)

theorem ofRat_eq_pointOf_iff {number : Int} (fits : FitsInt64 number) :
    Binary64.ofRat number = Value.pointOf (Int64.ofInt number) ↔
      FitsBits significantBits leastExponent number := by
  rw [fits.ofRat_eq, Value.pointOf, fits.toInt_ofInt, finite.injEq, ← Dyadic.toRat_inj,
    toRat_ofInt]
  constructor
  · intro same
    rw [← same]
    exact fitsBits_nearestDyadic (by decide) leastExponent number
  · exact nearestDyadic_of_fitsBits

/-- Whether a value of a column is equal to one of two amounts and not to the other. -/
def ToldApart (affinity : Affinity) (amount other : Decimal) : Prop :=
  ∃ value, Operand.equals ⟨value, some affinity⟩ (Query.amountOperand amount) ≠
    Operand.equals ⟨value, some affinity⟩ (Query.amountOperand other)

/-- One of two amounts of a value has places and the other has none, and the value is a whole number of
64 bits that is no double. -/
def SplitByScale (amount other : Decimal) : Prop :=
  (amount.scale = 0 ↔ other.scale ≠ 0) ∧
    ∃ number : Int, amount.value = number ∧ FitsInt64 number ∧
      ¬FitsBits significantBits leastExponent number

theorem equals_amountOperand_iff {affinity : Affinity} {value : Value} {amount : Decimal} :
    Operand.equals ⟨value, some affinity⟩ (Query.amountOperand amount) = true ↔
      (Operand.converted affinity value).order (Operand.converted affinity (.text amount.toText)) =
        some .eq := by
  rw [Operand.equals, beq_iff_eq]
  rfl

theorem not_toldApart_of_converted_eq {affinity : Affinity} {amount other : Decimal}
    (same : Operand.converted affinity (.text amount.toText) =
      Operand.converted affinity (.text other.toText)) : ¬ToldApart affinity amount other := by
  rintro ⟨value, apart⟩
  apply apart
  rw [Bool.eq_iff_iff, equals_amountOperand_iff, equals_amountOperand_iff, same]

theorem ToldApart.symm {affinity : Affinity} {amount other : Decimal}
    (apart : ToldApart affinity amount other) : ToldApart affinity other amount := by
  obtain ⟨value, different⟩ := apart
  exact ⟨value, different.symm⟩

theorem converted_numeric {affinity : Affinity} (numeric : affinity.isNumeric = true)
    (amount : Decimal) :
    Operand.converted affinity (.text amount.toText) = Value.ofNumericText amount.toText := by
  rw [Operand.converted, if_pos numeric]

/-- A whole number of 64 bits without places against the same number with places. -/
theorem toldApart_whole_iff {affinity : Affinity} (numeric : affinity.isNumeric = true)
    {amount other : Decimal} (same : amount.value = other.value) (whole : amount.scale = 0)
    (fits : FitsInt64 amount.signedMantissa) (pointed : other.scale ≠ 0) :
    ToldApart affinity amount other ↔
      ¬FitsBits significantBits leastExponent amount.signedMantissa := by
  have value := value_of_scale_zero whole
  have real : realOf (amountLiteral other) = .ofRat amount.signedMantissa :=
    realOf_of_int64 fits (same.symm.trans value)
  have first : Operand.converted affinity (.text amount.toText) =
      .integer (Int64.ofInt amount.signedMantissa) := by
    rw [converted_numeric numeric, ofNumericText_toText, if_pos ⟨whole, fits⟩]
  have second : Operand.converted affinity (.text other.toText) =
      .real (.ofRat amount.signedMantissa) := by
    rw [converted_numeric numeric, ofNumericText_toText, if_neg (fun both => pointed both.1), real]
  rw [← not_iff_not, not_not, ← ofRat_eq_pointOf_iff fits]
  constructor
  · -- The whole number itself is equal to one of them, and so has to be to the other.
    intro alike
    have kept : Operand.converted affinity (.integer (Int64.ofInt amount.signedMantissa)) =
        .integer (Int64.ofInt amount.signedMantissa) := by
      simp [Operand.converted, numeric]
    have equal : Operand.equals ⟨.integer (Int64.ofInt amount.signedMantissa), some affinity⟩
        (Query.amountOperand other) = true := by
      by_contra different
      refine alike ⟨_, fun agree => different (agree ▸ equals_amountOperand_iff.mpr ?_)⟩
      rw [kept, first]
      exact order_integer_eq_iff.mpr (Or.inl rfl)
    rw [equals_amountOperand_iff, kept, second] at equal
    simp only [Value.order, Option.some.injEq, compareReal_eq_iff] at equal
    exact equal.symm
  · intro point
    rintro ⟨value, apart⟩
    apply apart
    rw [Bool.eq_iff_iff, equals_amountOperand_iff, equals_amountOperand_iff, first, second, point,
      order_integer_eq_iff, order_real_pointOf_eq_iff]

theorem splitByScale_symm {amount other : Decimal} (same : amount.value = other.value) :
    SplitByScale amount other ↔ SplitByScale other amount := by
  unfold SplitByScale
  rw [same]
  tauto

theorem toldApart_iff_of_numeric {affinity : Affinity} (numeric : affinity.isNumeric = true)
    {amount other : Decimal} (same : amount.value = other.value) :
    ToldApart affinity amount other ↔ SplitByScale amount other := by
  have split {first second : Decimal} (equal : first.value = second.value)
      (whole : first.scale = 0) (fits : FitsInt64 first.signedMantissa) (pointed : second.scale ≠ 0) :
      ToldApart affinity first second ↔ SplitByScale first second := by
    rw [toldApart_whole_iff numeric equal whole fits pointed]
    constructor
    · intro unfit
      exact ⟨by simp [whole, pointed], _, value_of_scale_zero whole, fits, unfit⟩
    · rintro ⟨_, number, value, _, unfit⟩
      rw [value_of_scale_zero whole, Int.cast_inj] at value
      rwa [value]
  have mantissas (whole : amount.scale = 0) (otherWhole : other.scale = 0) :
      amount.signedMantissa = other.signedMantissa := by
    rw [value_of_scale_zero whole, value_of_scale_zero otherWhole, Int.cast_inj] at same
    exact same
  by_cases plain : amount.scale = 0 ∧ FitsInt64 amount.signedMantissa
  · by_cases otherWhole : other.scale = 0
    · -- Both are taken for the same whole number.
      have equal := mantissas plain.1 otherWhole
      refine iff_of_false (not_toldApart_of_converted_eq ?_) (fun apart => ?_)
      · rw [converted_numeric numeric, converted_numeric numeric, ofNumericText_toText,
          ofNumericText_toText, if_pos plain, if_pos ⟨otherWhole, equal ▸ plain.2⟩, equal]
      · exact apart.1.mp plain.1 otherWhole
    · exact split same plain.1 plain.2 otherWhole
  · by_cases otherPlain : other.scale = 0 ∧ FitsInt64 other.signedMantissa
    · have pointed : amount.scale ≠ 0 :=
        fun whole => plain ⟨whole, mantissas whole otherPlain.1 ▸ otherPlain.2⟩
      rw [splitByScale_symm same, ← split same.symm otherPlain.1 otherPlain.2 pointed]
      exact ⟨ToldApart.symm, ToldApart.symm⟩
    · -- Both are taken for the same real number.
      refine iff_of_false (not_toldApart_of_converted_eq ?_) (fun apart => ?_)
      · rw [converted_numeric numeric, converted_numeric numeric, ofNumericText_toText,
          ofNumericText_toText, if_neg plain, if_neg otherPlain, realOf_congr same]
      · obtain ⟨oneWhole, number, value, fits, _⟩ := apart
        by_cases whole : amount.scale = 0
        · rw [value_of_scale_zero whole, Int.cast_inj] at value
          exact plain ⟨whole, value ▸ fits⟩
        · have otherWhole : other.scale = 0 := by tauto
          rw [same, value_of_scale_zero otherWhole, Int.cast_inj] at value
          exact otherPlain ⟨otherWhole, value ▸ fits⟩

/-- Columns that do not lean to numbers compare texts. -/
theorem toldApart_iff_of_textual {affinity : Affinity} (textual : affinity.isNumeric = false)
    (amount other : Decimal) : ToldApart affinity amount other ↔ amount.toText ≠ other.toText := by
  have kept (content : String) : Operand.converted affinity (.text content) = .text content := by
    unfold Operand.converted
    cases affinity <;> simp_all [Affinity.isNumeric, Value.toTextual]
  constructor
  · intro apart same
    exact not_toldApart_of_converted_eq (by rw [same]) apart
  · intro different
    refine ⟨.text amount.toText, fun agree => ?_⟩
    have equal : Operand.equals ⟨.text amount.toText, some affinity⟩
        (Query.amountOperand amount) = true := by
      rw [equals_amountOperand_iff, kept, order_text_eq_iff]
    rw [agree, equals_amountOperand_iff, kept, kept, order_text_eq_iff, Value.text.injEq] at equal
    exact different equal

theorem toldApart_iff {amount other : Decimal} (same : amount.value = other.value)
    (affinity : Affinity) :
    ToldApart affinity amount other ↔
      if affinity.isNumeric then SplitByScale amount other else amount.toText ≠ other.toText := by
  cases numeric : affinity.isNumeric with
  | true => simpa using toldApart_iff_of_numeric numeric same
  | false => simpa using toldApart_iff_of_textual numeric amount other

end Underwriting.Store
