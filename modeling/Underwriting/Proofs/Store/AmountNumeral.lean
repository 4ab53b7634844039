import Mathlib.Data.List.TakeWhile
import Underwriting.Proofs.Decimal.Reading
import Underwriting.Proofs.Store.Scaling

/-!
The real number that the store makes of an amount's text. Digits are kept while 64 bits have room for
them, zeros at the end of the fraction are given up again, and powers of ten and the 53 bits of the
result are rounded. So the result depends on the amount's value alone, it is the nearest double of a
whole number of 64 bits, and it is near the value in any case.
-/

namespace Underwriting.Store

open Text Binary64

theorem stripSpaces_of_none {chars : List Char} (none : ∀ char ∈ chars, isSpace char = false) :
    stripSpaces chars = chars := by
  have kept {list : List Char} (none : ∀ char ∈ list, isSpace char = false) :
      list.dropWhile isSpace = list := by
    cases list with
    | nil => rfl
    | cons first rest => simp [none first (by simp)]
  have reversed : ∀ char ∈ chars.reverse, isSpace char = false := by simpa using none
  rw [stripSpaces, kept none, kept reversed, List.reverse_reverse]

def amountLiteral (amount : Decimal) : Literal :=
  ⟨amount.negative, amount.wholeChars, amount.fractionChars, 0, amount.scale = 0⟩

theorem parseSign_eq (chars : List Char) : Literal.parseSign chars = Decimal.splitSign chars := by
  unfold Literal.parseSign Decimal.splitSign
  split <;> simp_all

theorem isSpace_of_plain {char : Char} (plain : char = '-' ∨ char = '.' ∨ char.isDigit = true) :
    isSpace char = false := by
  rcases plain with rfl | rfl | digit
  · rfl
  · rfl
  · have bounds := toNat_bounds_of_isDigit digit
    have apart : char ≠ ' ' := by
      rintro rfl
      simp [Char.isDigit] at digit
    simp [isSpace, apart]
    omega

theorem literal?_toText (amount : Decimal) : literal? amount.toText = some (amountLiteral amount) := by
  obtain ⟨wholeDigits, fractionDigits⟩ := amount.areDigits_chars
  generalize tailEq : (if amount.scale = 0 then [] else '.' :: amount.fractionChars) = tail
  have chars : amount.toChars = Decimal.signChars amount.negative ++ (amount.wholeChars ++ tail) := by
    rw [Decimal.toChars_eq, List.append_assoc, tailEq]
  have pointed : ∀ char ∈ tail, char = '.' ∨ char.isDigit = true := by
    rw [← tailEq]
    split
    · simp
    · exact Decimal.pointed_of_digits fractionDigits
  have noSpace : ∀ char ∈ amount.toChars, isSpace char = false := by
    intro char member
    rw [chars] at member
    exact isSpace_of_plain (Decimal.plain_of_mem wholeDigits pointed member)
  have tailStops : tail.takeWhile Char.isDigit = [] ∧ tail.dropWhile Char.isDigit = tail := by
    rw [← tailEq]
    split <;> simp [Char.isDigit]
  have fraction : Literal.parseFraction tail = (amount.fractionChars, []) := by
    rw [← tailEq]
    split
    · rename_i whole
      rw [List.length_eq_zero_iff.mp (amount.length_fractionChars.trans whole)]
      rfl
    · simp only [Literal.parseFraction]
      rw [List.takeWhile_eq_self_iff.mpr fractionDigits, List.dropWhile_eq_nil_iff.mpr fractionDigits]
  have plain : tail.isEmpty = decide (amount.scale = 0) := by
    rw [← tailEq]
    split
    · rename_i whole
      simp [whole]
    · rename_i pointed
      simp [pointed]
  have given : (amount.wholeChars ++ amount.fractionChars).isEmpty = false := by
    simp [amount.wholeChars_ne_nil]
  rw [literal?, Decimal.toText, String.toList_ofList, stripSpaces_of_none noSpace, chars,
    Literal.ofChars?, parseSign_eq,
    Decimal.splitSign_signChars _ wholeDigits amount.wholeChars_ne_nil]
  simp only [List.takeWhile_append_of_pos wholeDigits, List.dropWhile_append_of_pos wholeDigits,
    tailStops, List.append_nil, fraction, given, plain, Literal.parseExponent?, Option.map_some,
    Bool.false_eq_true, if_false, amountLiteral]

theorem significandLimit_pos : 0 < significandLimit := by decide

structure Scaled.Keeps (kept : Scaled) (digits dropped : Nat) : Prop where
  significand_eq : kept.significand = digits / 10 ^ dropped
  reached : dropped = 0 ∨ significandLimit ≤ kept.significand
  below : digits / 10 ^ (dropped + 1) < significandLimit

namespace Scaled.Keeps

variable {kept : Scaled} {digits dropped : Nat}

theorem of_room (keeps : kept.Keeps digits dropped) (room : kept.significand < significandLimit) :
    dropped = 0 ∧ kept.significand = digits := by
  obtain ⟨significand, reached, _⟩ := keeps
  have none : dropped = 0 := by omega
  subst none
  exact ⟨rfl, by simpa using significand⟩

theorem keepWhole (keeps : kept.Keeps digits dropped) {char : Char} (digit : char.isDigit = true) :
    ∃ next, (kept.keepWhole char).Keeps (digits * 10 + digitValue char) next ∧
      (kept.keepWhole char).exponent - next = kept.exponent - dropped := by
  have small := digitValue_lt digit
  by_cases room : kept.significand < significandLimit
  · obtain ⟨rfl, same⟩ := keeps.of_room room
    rw [Scaled.keepWhole, if_pos room]
    refine ⟨0, ⟨?_, Or.inl rfl, ?_⟩, rfl⟩
    · simp [same]
    · rw [same] at room
      omega
  · have tenth (power : Nat) : (digits * 10 + digitValue char) / 10 ^ (power + 1) =
        digits / 10 ^ power := by
      rw [Nat.pow_succ, Nat.mul_comm (10 ^ power), ← Nat.div_div_eq_div_mul]
      congr 1
      omega
    rw [Scaled.keepWhole, if_neg room]
    refine ⟨dropped + 1, ⟨?_, Or.inr (not_lt.mp room), ?_⟩, ?_⟩
    · rw [tenth]
      exact keeps.significand_eq
    · rw [tenth]
      exact keeps.below
    · push_cast
      ring

/-- A digit of the fraction is kept or dropped like one in front of the point, one place lower. -/
theorem keepFraction_eq (number : Scaled) (char : Char) :
    number.keepFraction char =
      ⟨(number.keepWhole char).significand, (number.keepWhole char).exponent - 1⟩ := by
  unfold Scaled.keepFraction Scaled.keepWhole
  split
  · rfl
  · simp

theorem foldl_keepWhole (keeps : kept.Keeps digits dropped) {chars : List Char}
    (areDigits : AreDigits chars) :
    ∃ next, (chars.foldl Scaled.keepWhole kept).Keeps (Nat.ofDigitChars 10 chars digits) next ∧
      (chars.foldl Scaled.keepWhole kept).exponent - next = kept.exponent - dropped := by
  induction chars generalizing kept digits dropped with
  | nil => exact ⟨dropped, keeps, rfl⟩
  | cons char rest ih =>
      obtain ⟨middle, middleKeeps, middleExponent⟩ := keeps.keepWhole (areDigits char (by simp))
      obtain ⟨next, nextKeeps, nextExponent⟩ :=
        ih middleKeeps fun other member => areDigits other (by simp [member])
      refine ⟨next, ?_, ?_⟩
      · rw [Nat.ofDigitChars_cons, Nat.mul_comm 10]
        exact nextKeeps
      · rw [List.foldl_cons, nextExponent, middleExponent]

theorem foldl_keepFraction (keeps : kept.Keeps digits dropped) {chars : List Char}
    (areDigits : AreDigits chars) :
    ∃ next, (chars.foldl Scaled.keepFraction kept).Keeps (Nat.ofDigitChars 10 chars digits) next ∧
      (chars.foldl Scaled.keepFraction kept).exponent - next =
        kept.exponent - dropped - chars.length := by
  induction chars generalizing kept digits dropped with
  | nil => exact ⟨dropped, keeps, by simp⟩
  | cons char rest ih =>
      obtain ⟨middle, middleKeeps, middleExponent⟩ := keeps.keepWhole (areDigits char (by simp))
      have fractionKeeps : (kept.keepFraction char).Keeps (digits * 10 + digitValue char) middle := by
        rw [keepFraction_eq]
        exact ⟨middleKeeps.significand_eq, middleKeeps.reached, middleKeeps.below⟩
      obtain ⟨next, nextKeeps, nextExponent⟩ :=
        ih fractionKeeps fun other member => areDigits other (by simp [member])
      refine ⟨next, ?_, ?_⟩
      · rw [Nat.ofDigitChars_cons, Nat.mul_comm 10]
        exact nextKeeps
      · rw [List.foldl_cons, nextExponent, keepFraction_eq, List.length_cons]
        push_cast
        linarith

theorem dropped_unique {other : Scaled} {otherDropped : Nat} (keeps : kept.Keeps digits dropped)
    (otherKeeps : other.Keeps digits otherDropped) : dropped = otherDropped := by
  have ordered {first second : Scaled} {few many : Nat} (fewKeeps : first.Keeps digits few)
      (manyKeeps : second.Keeps digits many) : many ≤ few := by
    by_contra more
    have atLeast := manyKeeps.reached.resolve_left (by omega)
    rw [manyKeeps.significand_eq] at atLeast
    have fewer : digits / 10 ^ many ≤ digits / 10 ^ (few + 1) :=
      Nat.div_le_div_left (Nat.pow_le_pow_right (by decide) (by omega)) (Nat.pow_pos (by decide))
    exact absurd (atLeast.trans fewer) (not_le.mpr fewKeeps.below)
  exact le_antisymm (ordered otherKeeps keeps) (ordered keeps otherKeeps)

end Scaled.Keeps

theorem scaledOf_amountLiteral (amount : Decimal) :
    ∃ dropped : Nat, (scaledOf (amountLiteral amount)).Keeps amount.mantissa dropped ∧
      (scaledOf (amountLiteral amount)).exponent = dropped - amount.scale := by
  obtain ⟨wholeDigits, fractionDigits⟩ := amount.areDigits_chars
  have start : Scaled.Keeps ⟨0, max (-exponentLimit) (min exponentLimit 0)⟩ 0 0 :=
    ⟨rfl, Or.inl rfl, significandLimit_pos⟩
  obtain ⟨middle, wholeKeeps, wholeExponent⟩ := start.foldl_keepWhole wholeDigits
  obtain ⟨dropped, keeps, exponent⟩ := wholeKeeps.foldl_keepFraction fractionDigits
  refine ⟨dropped, ?_, ?_⟩
  · rw [← Nat.ofDigitChars_append] at keeps
    have digits := amount.ofDigits_chars
    rw [ofDigits] at digits
    rw [digits] at keeps
    exact keeps
  · rw [wholeExponent, amount.length_fractionChars] at exponent
    have none : max (-exponentLimit) (min exponentLimit 0) = 0 := rfl
    simp only [none] at exponent
    change (scaledOf (amountLiteral amount)).exponent - dropped = _ at exponent
    omega

def Scaled.value (number : Scaled) : ℚ := number.significand * 10 ^ number.exponent

theorem dropZeros_mul_pow (significand zeros places : Nat) :
    dropZeros (significand * 10 ^ zeros) (places + zeros) = dropZeros significand places := by
  induction zeros with
  | zero => simp
  | succ zeros ih =>
      have shifted : significand * 10 ^ (zeros + 1) = significand * 10 ^ zeros * 10 := by
        rw [Nat.pow_succ, Nat.mul_assoc]
      rw [shifted, ← Nat.add_assoc, dropZeros, if_pos (Nat.mul_mod_left _ 10),
        Nat.mul_div_cancel _ (by decide), ih]

theorem balanced_of_places (significand places : Nat) :
    Scaled.balanced ⟨significand, -(places : Int)⟩ = dropZeros significand places := by
  cases places with
  | zero => rfl
  | succ places => rfl

theorem value_dropZeros (significand places : Nat) :
    (dropZeros significand places).value = significand * 10 ^ (-(places : Int)) ∧
      (dropZeros significand places).exponent.natAbs ≤ places := by
  induction places generalizing significand with
  | zero => simp [dropZeros, Scaled.value]
  | succ places ih =>
      unfold dropZeros
      split
      · rename_i ends
        obtain ⟨same, near⟩ := ih (significand / 10)
        refine ⟨?_, by omega⟩
        have tenfold : (significand : ℚ) = (significand / 10 : Nat) * 10 := by
          exact_mod_cast (Nat.div_mul_cancel (Nat.dvd_of_mod_eq_zero ends)).symm
        rw [same, tenfold, Nat.cast_succ, neg_add, zpow_add₀ (by norm_num)]
        field_simp
      · exact ⟨rfl, by dsimp only; omega⟩

theorem value_fillZeros (significand exponent : Nat) :
    (fillZeros significand exponent).value = significand * 10 ^ (exponent : Int) ∧
      (fillZeros significand exponent).exponent.natAbs ≤ exponent := by
  induction exponent generalizing significand with
  | zero => simp [fillZeros, Scaled.value]
  | succ exponent ih =>
      unfold fillZeros
      split
      · obtain ⟨same, near⟩ := ih (significand * 10)
        refine ⟨?_, by omega⟩
        rw [same, Nat.cast_succ, zpow_add₀ (by norm_num)]
        push_cast
        ring
      · exact ⟨rfl, by dsimp only; omega⟩

theorem value_balanced (number : Scaled) :
    number.balanced.value = number.value ∧
      number.balanced.exponent.natAbs ≤ number.exponent.natAbs := by
  obtain ⟨significand, exponent⟩ := number
  cases exponent with
  | ofNat exponent => exact value_fillZeros significand exponent
  | negSucc exponent => exact value_dropZeros significand (exponent + 1)

def Scaled.magnitude (number : Scaled) : Dyadic :=
  if number.exponent = 0 then .ofInt number.significand
  else timesTenPower number.exponent (.ofInt number.significand)

theorem toRat_ofInt (number : Int) : (Dyadic.ofInt number).toRat = number := by
  rw [Dyadic.ofInt, Dyadic.toRat_ofIntWithPrec_eq_mul_two_pow]
  simp

theorem near_magnitude {number : Scaled} (counted : 0 < number.significand)
    (bounded : number.exponent.natAbs < 1000) :
    Near 54 number.magnitude.toRat number.value := by
  unfold Scaled.magnitude Scaled.value
  have one : (1 : ℚ) ≤ (Dyadic.ofInt number.significand).toRat := by
    rw [toRat_ofInt]
    exact_mod_cast counted
  by_cases whole : number.exponent = 0
  · rw [if_pos whole, whole, zpow_zero, mul_one, toRat_ofInt]
    exact (Near.refl _).mono (by positivity) (by norm_num)
  · have near := near_timesTenPower one bounded
    rw [if_neg whole]
    rw [toRat_ofInt] at near
    exact near

theorem realOf_eq (literal : Literal) :
    realOf literal = if (scaledOf literal).significand = 0 then .finite 0
      else .ofRat (if literal.negative then -(scaledOf literal).balanced.magnitude.toRat
        else (scaledOf literal).balanced.magnitude.toRat) := rfl

/-- The sign of a number and, up to the roundings on the way to a double, its size. -/
structure StandsFor (real : Dyadic) (number : ℚ) : Prop where
  sign : real.toRat < 0 ↔ number < 0
  near : Near 2200 |real.toRat| |number|

theorem standsFor_zero : StandsFor 0 0 := by
  refine ⟨by simp, ?_⟩
  constructor <;> simp

theorem near_ofRat {number : ℚ} (low : (2 : ℚ) ^ (-1022 : Int) ≤ |number|)
    (high : |number| < 2 ^ (1023 : Int)) :
    ∃ real, Binary64.ofRat number = .finite real ∧ (real.toRat < 0 ↔ number < 0) ∧
      Near 2048 |real.toRat| |number| := by
  have place : leastExponent + significantBits - 1 = -1022 := rfl
  have close : |(nearestDyadic significantBits leastExponent number).toRat - number| ≤
      |number| / 2 ^ 53 := by
    apply abs_nearestDyadic_sub_le
    rw [place]
    exact low
  rw [div_eq_mul_inv] at close
  refine ⟨_, ofRat_of_lt high, ?_, ?_⟩
  · obtain ⟨below, above⟩ := abs_le.mp close
    have positive : 0 < |number| := lt_of_lt_of_le (zpow_pos two_pos _) low
    have small : |number| * (2 ^ 53)⁻¹ ≤ |number| * (1 / 2) :=
      mul_le_mul_of_nonneg_left (by norm_num) positive.le
    rcases abs_cases number with ⟨same, nonnegative⟩ | ⟨same, negative⟩
    · constructor <;> intro assumed <;> linarith
    · constructor <;> intro assumed <;> linarith
  · have sizes := (abs_abs_sub_abs_le _ number).trans close
    exact Near.of_abs_sub_le _ (abs_nonneg number) sizes (by norm_num) (by norm_num) (by norm_num)

theorem Scaled.Keeps.dropped_le {kept : Scaled} {digits dropped : Nat}
    (keeps : kept.Keeps digits dropped) (bounded : digits < Decimal.mantissaBound) :
    dropped ≤ 28 := by
  by_contra more
  have atLeast := keeps.reached.resolve_left (by omega)
  rw [keeps.significand_eq] at atLeast
  have least : 10 ^ 29 ≤ 10 ^ dropped := Nat.pow_le_pow_right (by decide) (by omega)
  have one : 1 ≤ digits / 10 ^ dropped := le_trans significandLimit_pos atLeast
  have many := (Nat.le_div_iff_mul_le (Nat.pow_pos (by decide))).mp one
  have : Decimal.mantissaBound ≤ 10 ^ 29 := by decide
  omega

theorem Scaled.Keeps.near {kept : Scaled} {digits dropped : Nat} (keeps : kept.Keeps digits dropped) :
    Near 11 (kept.significand : ℚ) (digits / 10 ^ dropped) := by
  rcases Nat.eq_zero_or_pos dropped with rfl | some
  · have same : (kept.significand : ℚ) = digits / 10 ^ 0 := by
      rw [keeps.significand_eq]
      simp
    rw [← same]
    exact (Near.refl _).mono (by positivity) (by norm_num)
  · have many := keeps.reached.resolve_left (by omega)
    have limit : (1844674407370955160 : ℚ) ≤ kept.significand := by
      have : significandLimit = 1844674407370955160 := by decide
      rw [this] at many
      exact_mod_cast many
    have power : (0 : ℚ) < 10 ^ dropped := by positivity
    have low : (kept.significand : ℚ) ≤ digits / 10 ^ dropped := by
      rw [le_div_iff₀ power]
      have := Nat.div_mul_le_self digits (10 ^ dropped)
      rw [← keeps.significand_eq] at this
      exact_mod_cast this
    have high : (digits : ℚ) / 10 ^ dropped < kept.significand + 1 := by
      rw [div_lt_iff₀ power]
      have := Nat.lt_div_mul_add (a := digits) (Nat.pow_pos (n := dropped) (by decide : 0 < 10))
      rw [← keeps.significand_eq] at this
      have cast : (digits : ℚ) < kept.significand * 10 ^ dropped + 10 ^ dropped := by
        exact_mod_cast this
      linarith
    refine Near.of_abs_sub_le (1 / 1844674407370955160) (by positivity) ?_ (by norm_num)
      (by norm_num) (by norm_num)
    rw [abs_le]
    constructor <;> linarith

theorem significand_pos {amount : Decimal} (nonzero : amount.mantissa ≠ 0) :
    0 < (scaledOf (amountLiteral amount)).significand := by
  obtain ⟨dropped, keeps, _⟩ := scaledOf_amountLiteral amount
  rcases keeps.reached with rfl | many
  · rw [keeps.significand_eq, pow_zero, Nat.div_one]
    exact Nat.pos_of_ne_zero nonzero
  · exact lt_of_lt_of_le significandLimit_pos many

theorem near_scaledOf (amount : Decimal) :
    Near 11 (scaledOf (amountLiteral amount)).value |amount.value| := by
  obtain ⟨dropped, keeps, exponent⟩ := scaledOf_amountLiteral amount
  have shifted := keeps.near.mul_right
    (zpow_nonneg (by norm_num : (0 : ℚ) ≤ 10) (dropped - amount.scale : Int))
  have size : (amount.mantissa : ℚ) / 10 ^ dropped * 10 ^ (dropped - amount.scale : Int) =
      |amount.value| := by
    rw [Decimal.abs_value, zpow_sub₀ (by norm_num), zpow_natCast, zpow_natCast]
    field_simp
  rw [size] at shifted
  rw [Scaled.value, exponent]
  exact shifted

theorem near_balanced {amount : Decimal} (nonzero : amount.mantissa ≠ 0) :
    Near 65 (scaledOf (amountLiteral amount)).balanced.magnitude.toRat |amount.value| := by
  obtain ⟨dropped, keeps, exponent⟩ := scaledOf_amountLiteral amount
  have droppedBound := keeps.dropped_le amount.mantissa_lt
  have scaleBound : amount.scale ≤ 28 := amount.scale_le
  have scaled := near_scaledOf amount
  obtain ⟨balancedValue, balancedExponent⟩ := value_balanced (scaledOf (amountLiteral amount))
  have counted : 0 < (scaledOf (amountLiteral amount)).balanced.significand := by
    have positive := scaled.pos (abs_pos.mpr (mt Decimal.value_eq_zero_iff.mp nonzero))
    rw [← balancedValue, Scaled.value] at positive
    exact_mod_cast pos_of_mul_pos_left positive (zpow_nonneg (by norm_num) _)
  have magnitude := near_magnitude counted (by omega)
  rw [balancedValue] at magnitude
  exact magnitude.trans scaled

theorem amount_size_bounds {amount : Decimal} {size : ℚ} (nonzero : amount.value ≠ 0)
    (near : Near 65 size |amount.value|) :
    (2 : ℚ) ^ (-1022 : Int) ≤ size ∧ size < 2 ^ (1023 : Int) := by
  have positive : 0 < |amount.value| := abs_pos.mpr nonzero
  constructor
  · have half := near.le_two_mul (by norm_num) (near.pos positive).le
    calc (2 : ℚ) ^ (-1022 : Int) ≤ 2 ^ (-100 : Int) :=
          zpow_le_zpow_right₀ one_le_two (by norm_num)
      _ ≤ 10 ^ (-28 : Int) / 2 := by norm_num
      _ ≤ size := (div_le_iff₀' two_pos).mpr ((Decimal.le_abs_value nonzero).trans half)
  · have double := near.symm.le_two_mul (by norm_num) positive.le
    have most := amount.abs_value_lt
    calc size < 2 ^ (97 : Int) := by
          norm_num at most ⊢
          linarith
      _ ≤ 2 ^ (1023 : Int) := zpow_le_zpow_right₀ one_le_two (by norm_num)

theorem realOf_of_zero {amount : Decimal} (zero : amount.mantissa = 0) :
    realOf (amountLiteral amount) = .finite 0 := by
  obtain ⟨dropped, keeps, _⟩ := scaledOf_amountLiteral amount
  have none : (scaledOf (amountLiteral amount)).significand = 0 := by
    rw [keeps.significand_eq, zero, Nat.zero_div]
  rw [realOf_eq, if_pos none]

/-- The store reads an amount's text as a finite number that stands for the amount. -/
theorem realOf_standsFor (amount : Decimal) :
    ∃ real, realOf (amountLiteral amount) = .finite real ∧ StandsFor real amount.value := by
  by_cases zero : amount.mantissa = 0
  · rw [realOf_of_zero zero, Decimal.value_eq_zero_iff.mpr zero]
    exact ⟨0, rfl, standsFor_zero⟩
  · have nonzero : amount.value ≠ 0 := mt Decimal.value_eq_zero_iff.mp zero
    have positive : 0 < |amount.value| := abs_pos.mpr nonzero
    have near := near_balanced zero
    rw [realOf_eq, if_neg (significand_pos zero).ne']
    generalize (scaledOf (amountLiteral amount)).balanced.magnitude.toRat = size at near
    have sizePositive := near.pos positive
    obtain ⟨low, high⟩ := amount_size_bounds nonzero near
    have signed : |if (amountLiteral amount).negative then -size else size| = size := by
      split
      · rw [abs_neg, abs_of_pos sizePositive]
      · rw [abs_of_pos sizePositive]
    have sign : (if (amountLiteral amount).negative then -size else size) < 0 ↔ amount.value < 0 := by
      rw [Decimal.value_eq, ← Decimal.abs_value]
      change (if amount.negative then -size else size) < 0 ↔ _
      cases amount.negative
      · exact iff_of_false (not_lt.mpr sizePositive.le) (not_lt.mpr (abs_nonneg _))
      · exact iff_of_true (neg_neg_of_pos sizePositive) (neg_neg_of_pos positive)
    obtain ⟨real, finite, realSign, realNear⟩ :=
      near_ofRat (by rw [signed]; exact low) (by rw [signed]; exact high)
    rw [signed] at realNear
    exact ⟨real, finite, realSign.trans sign,
      (realNear.trans near).mono (abs_nonneg _) (by norm_num)⟩

theorem balanced_of_whole {amount : Decimal} {whole : Nat} (small : whole ≤ 2 ^ 63)
    (same : amount.mantissa = whole * 10 ^ amount.scale) :
    (scaledOf (amountLiteral amount)).balanced = ⟨whole, 0⟩ := by
  obtain ⟨dropped, keeps, exponent⟩ := scaledOf_amountLiteral amount
  have within : dropped ≤ amount.scale := by
    by_contra more
    have many := keeps.reached.resolve_left (by omega)
    obtain ⟨extra, rfl⟩ : ∃ extra, dropped = amount.scale + (extra + 1) :=
      ⟨dropped - amount.scale - 1, by omega⟩
    have fewer : amount.mantissa / 10 ^ (amount.scale + (extra + 1)) ≤ whole / 10 := by
      rw [Nat.pow_add, ← Nat.div_div_eq_div_mul, same, Nat.mul_div_cancel _ (Nat.pow_pos (by decide))]
      exact Nat.div_le_div_left (Nat.le_self_pow (by omega) 10) (by decide)
    rw [keeps.significand_eq] at many
    have limit : significandLimit = 1844674407370955160 := by decide
    omega
  obtain ⟨places, split⟩ := Nat.exists_eq_add_of_le within
  have significand : (scaledOf (amountLiteral amount)).significand = whole * 10 ^ places := by
    rw [keeps.significand_eq, same, split, Nat.add_comm dropped, Nat.pow_add, ← Nat.mul_assoc,
      Nat.mul_div_cancel _ (Nat.pow_pos (by decide))]
  have exponentEq : (scaledOf (amountLiteral amount)).exponent = -(places : Int) := by
    rw [exponent, split]
    push_cast
    ring
  have kept : scaledOf (amountLiteral amount) = ⟨whole * 10 ^ places, -(places : Int)⟩ := by
    rw [← significand, ← exponentEq]
  rw [kept, balanced_of_places]
  have ends := dropZeros_mul_pow whole places 0
  rw [Nat.zero_add] at ends
  rw [ends]
  rfl

theorem ofRat_zero : Binary64.ofRat 0 = .finite 0 := by decide +kernel

/-- A whole number of 64 bits is read as its nearest double, whatever its scale. -/
theorem realOf_of_whole {amount : Decimal} {number : Int} (small : number.natAbs ≤ 2 ^ 63)
    (same : amount.value = number) : realOf (amountLiteral amount) = .ofRat number := by
  have mantissa : amount.mantissa = number.natAbs * 10 ^ amount.scale := by
    have size := amount.abs_value
    rw [same, eq_div_iff (by positivity)] at size
    have cast : ((number.natAbs * 10 ^ amount.scale : Nat) : ℚ) = amount.mantissa := by
      rw [← size, Nat.cast_mul, Nat.cast_natAbs, Int.cast_abs, Nat.cast_pow, Nat.cast_ofNat]
    exact_mod_cast cast.symm
  by_cases zero : amount.mantissa = 0
  · rw [realOf_of_zero zero, ← same, Decimal.value_eq_zero_iff.mpr zero, ofRat_zero]
  · rw [realOf_eq, if_neg (significand_pos zero).ne', balanced_of_whole small mantissa]
    have size : (Scaled.magnitude ⟨number.natAbs, 0⟩).toRat = |(number : ℚ)| := by
      rw [Scaled.magnitude, if_pos rfl, toRat_ofInt, Int.cast_natCast, Nat.cast_natAbs, Int.cast_abs]
    rw [size, ← same]
    have positive : 0 < |amount.value| := abs_pos.mpr (mt Decimal.value_eq_zero_iff.mp zero)
    congr 1
    rw [Decimal.value_eq, ← Decimal.abs_value]
    change (if amount.negative then _ else _) = _
    cases amount.negative <;> simp

section Zeros

variable {amount other : Decimal} {zeros : Nat}

theorem balanced_of_zeros_room (mantissa : other.mantissa = amount.mantissa * 10 ^ zeros)
    (scale : other.scale = amount.scale + zeros)
    (room : (scaledOf (amountLiteral amount)).significand < significandLimit) :
    (scaledOf (amountLiteral other)).balanced = (scaledOf (amountLiteral amount)).balanced := by
  obtain ⟨dropped, keeps, exponent⟩ := scaledOf_amountLiteral amount
  obtain ⟨otherDropped, otherKeeps, otherExponent⟩ := scaledOf_amountLiteral other
  rw [mantissa] at otherKeeps
  obtain ⟨rfl, all⟩ := keeps.of_room room
  have within : otherDropped ≤ zeros := by
    by_contra more
    have many := otherKeeps.reached.resolve_left (by omega)
    obtain ⟨extra, rfl⟩ := Nat.exists_eq_add_of_le (Nat.le_of_not_le more)
    rw [otherKeeps.significand_eq, Nat.pow_add, ← Nat.div_div_eq_div_mul,
      Nat.mul_div_cancel _ (Nat.pow_pos (by decide)), ← all] at many
    exact absurd (many.trans (Nat.div_le_self _ _)) (not_le.mpr room)
  obtain ⟨kept, split⟩ := Nat.exists_eq_add_of_le within
  have first : scaledOf (amountLiteral amount) = ⟨amount.mantissa, -(amount.scale : Int)⟩ := by
    rw [← all, ← zero_sub, ← Nat.cast_zero (R := Int), ← exponent]
  have second : scaledOf (amountLiteral other) =
      ⟨amount.mantissa * 10 ^ kept, -((amount.scale + kept : Nat) : Int)⟩ := by
    have significand : (scaledOf (amountLiteral other)).significand =
        amount.mantissa * 10 ^ kept := by
      rw [otherKeeps.significand_eq, split, Nat.add_comm otherDropped, Nat.pow_add,
        ← Nat.mul_assoc, Nat.mul_div_cancel _ (Nat.pow_pos (by decide))]
    have places : (scaledOf (amountLiteral other)).exponent =
        -((amount.scale + kept : Nat) : Int) := by
      rw [otherExponent, scale, split]
      push_cast
      ring
    rw [← significand, ← places]
  rw [first, second, balanced_of_places, balanced_of_places, dropZeros_mul_pow]

/-- Behind the limit no digit is looked at, so zeros there change nothing. -/
theorem scaledOf_of_zeros_full (mantissa : other.mantissa = amount.mantissa * 10 ^ zeros)
    (scale : other.scale = amount.scale + zeros)
    (full : significandLimit ≤ (scaledOf (amountLiteral amount)).significand) :
    scaledOf (amountLiteral other) = scaledOf (amountLiteral amount) := by
  obtain ⟨dropped, keeps, exponent⟩ := scaledOf_amountLiteral amount
  obtain ⟨otherDropped, otherKeeps, otherExponent⟩ := scaledOf_amountLiteral other
  rw [mantissa] at otherKeeps
  have further : (scaledOf (amountLiteral amount)).Keeps (amount.mantissa * 10 ^ zeros)
      (dropped + zeros) := by
    refine ⟨?_, Or.inr full, ?_⟩
    · rw [Nat.pow_add, Nat.mul_div_mul_right _ _ (Nat.pow_pos (by decide))]
      exact keeps.significand_eq
    · rw [Nat.add_right_comm, Nat.pow_add, Nat.mul_div_mul_right _ _ (Nat.pow_pos (by decide))]
      exact keeps.below
  have same := further.dropped_unique otherKeeps
  have significand : (scaledOf (amountLiteral other)).significand =
      (scaledOf (amountLiteral amount)).significand := by
    rw [otherKeeps.significand_eq, further.significand_eq, same]
  have places : (scaledOf (amountLiteral other)).exponent =
      (scaledOf (amountLiteral amount)).exponent := by
    rw [otherExponent, exponent, scale, ← same]
    push_cast
    ring
  generalize scaledOf (amountLiteral other) = second at significand places ⊢
  generalize scaledOf (amountLiteral amount) = first at significand places ⊢
  obtain ⟨_, _⟩ := first
  obtain ⟨_, _⟩ := second
  simp_all

theorem balanced_of_zeros (mantissa : other.mantissa = amount.mantissa * 10 ^ zeros)
    (scale : other.scale = amount.scale + zeros) :
    (scaledOf (amountLiteral other)).balanced = (scaledOf (amountLiteral amount)).balanced := by
  rcases lt_or_ge (scaledOf (amountLiteral amount)).significand significandLimit with room | full
  · exact balanced_of_zeros_room mantissa scale room
  · rw [scaledOf_of_zeros_full mantissa scale full]

end Zeros

/-- The real number that is read of an amount depends on its value alone. -/
theorem realOf_congr {amount other : Decimal} (same : amount.value = other.value) :
    realOf (amountLiteral amount) = realOf (amountLiteral other) := by
  wlog ordered : amount.scale ≤ other.scale
  · exact (this same.symm (Nat.le_of_not_le ordered)).symm
  by_cases zero : amount.mantissa = 0
  · have otherZero : other.mantissa = 0 := by
      rw [← Decimal.value_eq_zero_iff, ← same]
      exact Decimal.value_eq_zero_iff.mpr zero
    rw [realOf_of_zero zero, realOf_of_zero otherZero]
  · have otherNonzero : other.mantissa ≠ 0 := by
      intro otherZero
      rw [← Decimal.value_eq_zero_iff, ← same] at otherZero
      exact zero (Decimal.value_eq_zero_iff.mp otherZero)
    obtain ⟨zeros, scale⟩ := Nat.exists_eq_add_of_le ordered
    have mantissa : other.mantissa = amount.mantissa * 10 ^ zeros := by
      have sizes := congrArg abs same
      rw [Decimal.abs_value, Decimal.abs_value, div_eq_div_iff (by positivity) (by positivity), scale,
        pow_add, mul_comm ((10 : ℚ) ^ amount.scale), ← mul_assoc] at sizes
      have cast := mul_right_cancel₀ (by positivity : (10 : ℚ) ^ amount.scale ≠ 0) sizes
      exact_mod_cast cast.symm
    have sign : amount.negative = other.negative := by
      have sizes := congrArg abs same
      have positive : 0 < |amount.value| := abs_pos.mpr (mt Decimal.value_eq_zero_iff.mp zero)
      have signs := same
      rw [Decimal.value_eq, Decimal.value_eq, ← Decimal.abs_value, ← Decimal.abs_value, ← sizes]
        at signs
      cases first : amount.negative <;> cases second : other.negative <;>
        simp [first, second] at signs ⊢ <;> linarith
    rw [realOf_eq, realOf_eq, if_neg (significand_pos zero).ne',
      if_neg (significand_pos otherNonzero).ne', balanced_of_zeros mantissa scale]
    change Binary64.ofRat (if amount.negative then _ else _) =
      Binary64.ofRat (if other.negative then _ else _)
    rw [sign]

end Underwriting.Store
