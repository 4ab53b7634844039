import Mathlib.Data.Rat.Cast.Order
import Mathlib.Tactic.FieldSimp
import Mathlib.Tactic.GCongr
import Mathlib.Tactic.Linarith
import Mathlib.Tactic.NormNum
import Mathlib.Tactic.Positivity
import Mathlib.Tactic.Ring
import Underwriting.Number.Binary64

/-!
What rounding to a binary grid does to a number. The result is a whole count of units, half a unit
away at most, and a unit is the place of the last significant bit. So a number that fits into the
bits stays what it is, any result fits, and the error is small next to a number that is not below
the grid.
-/

namespace Underwriting

@[simp] theorem cast_powerOfTwo (exponent : Nat) : (powerOfTwo exponent : ℚ) = 2 ^ exponent := by
  rw [powerOfTwo, Nat.pow_eq, Nat.cast_pow, Nat.cast_ofNat]

@[simp] theorem cast_powerOfTen (exponent : Nat) : (powerOfTen exponent : ℚ) = 10 ^ exponent := by
  rw [powerOfTen, Nat.pow_eq, Nat.cast_pow, Nat.cast_ofNat]

theorem tenPower_eq (exponent : Int) : tenPower exponent = (10 : ℚ) ^ exponent := by
  cases exponent with
  | ofNat power => simp [tenPower]
  | negSucc power =>
      rw [tenPower, Rat.mkRat_eq_div, cast_powerOfTen, zpow_negSucc]
      simp

theorem divHalfEven_cases (numerator denominator : Nat) :
    (divHalfEven numerator denominator = numerator / denominator ∧
        2 * (numerator % denominator) ≤ denominator) ∨
      (divHalfEven numerator denominator = numerator / denominator + 1 ∧
        denominator ≤ 2 * (numerator % denominator)) := by
  unfold divHalfEven
  dsimp only
  split
  · exact Or.inl ⟨rfl, by omega⟩
  · split
    · exact Or.inl ⟨rfl, by omega⟩
    · exact Or.inr ⟨rfl, by omega⟩

theorem abs_divHalfEven_sub_le (numerator : Nat) {denominator : Nat} (positive : 0 < denominator) :
    |(divHalfEven numerator denominator : ℚ) - (numerator : ℚ) / denominator| ≤ 1 / 2 := by
  have positiveRat : (0 : ℚ) < denominator := by exact_mod_cast positive
  have divided : (numerator : ℚ) =
      denominator * (numerator / denominator : Nat) + (numerator % denominator : Nat) := by
    exact_mod_cast (Nat.div_add_mod numerator denominator).symm
  have quotient : (numerator : ℚ) / denominator =
      (numerator / denominator : Nat) + (numerator % denominator : Nat) / denominator := by
    rw [divided]
    field_simp
  rw [quotient]
  rcases divHalfEven_cases numerator denominator with ⟨rounded, half⟩ | ⟨rounded, half⟩
  · have rest : (0 : ℚ) ≤ (numerator % denominator : Nat) / denominator := by positivity
    have below : ((numerator % denominator : Nat) : ℚ) / denominator ≤ 1 / 2 := by
      rw [div_le_div_iff₀ positiveRat (by norm_num)]
      exact_mod_cast (by omega : numerator % denominator * 2 ≤ 1 * denominator)
    rw [rounded, abs_le]
    constructor <;> linarith
  · have rest : ((numerator % denominator : Nat) : ℚ) / denominator ≤ 1 := by
      rw [div_le_one positiveRat]
      exact_mod_cast (Nat.mod_lt numerator positive).le
    have above : (1 : ℚ) / 2 ≤ ((numerator % denominator : Nat) : ℚ) / denominator := by
      rw [div_le_div_iff₀ (by norm_num) positiveRat]
      exact_mod_cast (by omega : 1 * denominator ≤ numerator % denominator * 2)
    rw [rounded, abs_le]
    push_cast
    constructor <;> linarith

theorem powerOfTwo_mul_le_iff (numerator : Nat) {denominator : Nat} (positive : 0 < denominator)
    (power : Nat) :
    denominator * powerOfTwo power ≤ numerator ↔
      (2 : ℚ) ^ power ≤ (numerator : ℚ) / denominator := by
  have positiveRat : (0 : ℚ) < denominator := by exact_mod_cast positive
  rw [le_div_iff₀ positiveRat, mul_comm, ← cast_powerOfTwo, ← Nat.cast_mul, Nat.cast_le]

theorem le_mul_powerOfTwo_iff (numerator : Nat) {denominator : Nat} (positive : 0 < denominator)
    (power : Nat) :
    denominator ≤ numerator * powerOfTwo power ↔
      ((2 : ℚ) ^ power)⁻¹ ≤ (numerator : ℚ) / denominator := by
  have positiveRat : (0 : ℚ) < denominator := by exact_mod_cast positive
  rw [le_div_iff₀ positiveRat, inv_mul_le_iff₀ (by positivity), mul_comm ((2 : ℚ) ^ power),
    ← cast_powerOfTwo, ← Nat.cast_mul, Nat.cast_le]

theorem quotient_bounds {numerator denominator : Nat} (counted : 0 < numerator)
    (positive : 0 < denominator) :
    (2 : ℚ) ^ ((numerator.log2 : Int) - denominator.log2 - 1) ≤ (numerator : ℚ) / denominator ∧
      (numerator : ℚ) / denominator <
        (2 : ℚ) ^ ((numerator.log2 : Int) - denominator.log2 + 1) := by
  have positiveRat : (0 : ℚ) < denominator := by exact_mod_cast positive
  have numeratorLow : (2 : ℚ) ^ numerator.log2 ≤ numerator := by
    exact_mod_cast Nat.log2_self_le counted.ne'
  have numeratorHigh : (numerator : ℚ) < 2 ^ (numerator.log2 + 1) := by
    exact_mod_cast Nat.lt_log2_self
  have denominatorLow : (2 : ℚ) ^ denominator.log2 ≤ denominator := by
    exact_mod_cast Nat.log2_self_le positive.ne'
  have denominatorHigh : (denominator : ℚ) ≤ 2 ^ (denominator.log2 + 1) := by
    exact_mod_cast Nat.lt_log2_self.le
  constructor
  · rw [le_div_iff₀ positiveRat]
    calc (2 : ℚ) ^ ((numerator.log2 : Int) - denominator.log2 - 1) * denominator
        ≤ 2 ^ ((numerator.log2 : Int) - denominator.log2 - 1) * 2 ^ (denominator.log2 + 1) :=
          mul_le_mul_of_nonneg_left denominatorHigh (zpow_nonneg two_pos.le _)
      _ = 2 ^ numerator.log2 := by
          rw [← zpow_natCast, ← zpow_natCast, ← zpow_add₀ two_ne_zero]
          congr 1
          push_cast
          ring
      _ ≤ numerator := numeratorLow
  · rw [div_lt_iff₀ positiveRat]
    calc (numerator : ℚ) < 2 ^ (numerator.log2 + 1) := numeratorHigh
      _ = 2 ^ ((numerator.log2 : Int) - denominator.log2 + 1) * 2 ^ denominator.log2 := by
          rw [← zpow_natCast, ← zpow_natCast, ← zpow_add₀ two_ne_zero]
          congr 1
          push_cast
          ring
      _ ≤ 2 ^ ((numerator.log2 : Int) - denominator.log2 + 1) * denominator :=
          mul_le_mul_of_nonneg_left denominatorLow (zpow_nonneg two_pos.le _)

theorem binaryExponent_spec {numerator denominator : Nat} (counted : 0 < numerator)
    (positive : 0 < denominator) :
    (2 : ℚ) ^ binaryExponent numerator denominator ≤ (numerator : ℚ) / denominator ∧
      (numerator : ℚ) / denominator < (2 : ℚ) ^ (binaryExponent numerator denominator + 1) := by
  obtain ⟨low, high⟩ := quotient_bounds counted positive
  unfold binaryExponent
  generalize (numerator.log2 : Int) - denominator.log2 = estimate at low high
  cases estimate with
  | ofNat power =>
      have reached := powerOfTwo_mul_le_iff numerator positive power
      by_cases fits : denominator * powerOfTwo power ≤ numerator
      · simp only [fits, decide_true, ↓reduceIte]
        exact ⟨by simpa using reached.mp fits, high⟩
      · simp only [fits, decide_false, Bool.false_eq_true, ↓reduceIte, sub_add_cancel]
        exact ⟨low, by simpa using not_le.mp fun above => fits (reached.mpr above)⟩
  | negSucc power =>
      have reached := le_mul_powerOfTwo_iff numerator positive (power + 1)
      by_cases fits : denominator ≤ numerator * powerOfTwo (power + 1)
      · simp only [fits, decide_true, ↓reduceIte]
        exact ⟨by simpa [zpow_negSucc] using reached.mp fits, high⟩
      · simp only [fits, decide_false, Bool.false_eq_true, ↓reduceIte, sub_add_cancel]
        exact ⟨low, by simpa [zpow_negSucc] using not_le.mp fun above => fits (reached.mpr above)⟩

theorem abs_countUnits_sub_le (numerator : Nat) {denominator : Nat} (positive : 0 < denominator)
    (unit : Int) :
    |(countUnits numerator denominator unit : ℚ) - (numerator : ℚ) / denominator / 2 ^ unit| ≤
      1 / 2 := by
  cases unit with
  | ofNat power =>
      have same : (numerator : ℚ) / denominator / 2 ^ (Int.ofNat power) =
          numerator / (denominator * powerOfTwo power : Nat) := by
        rw [div_div, Int.ofNat_eq_natCast, zpow_natCast, Nat.cast_mul, cast_powerOfTwo]
      rw [same]
      exact abs_divHalfEven_sub_le numerator (Nat.mul_pos positive (powerOfTwo_pos power))
  | negSucc power =>
      have same : (numerator : ℚ) / denominator / 2 ^ (Int.negSucc power) =
          (numerator * powerOfTwo (power + 1) : Nat) / denominator := by
        rw [zpow_negSucc, div_inv_eq_mul, Nat.cast_mul, cast_powerOfTwo]
        ring
      rw [same]
      exact abs_divHalfEven_sub_le (numerator * powerOfTwo (power + 1)) positive

def lastUnit (bits : Nat) (least exponent : Int) : Int := max (exponent + 1 - bits) least

theorem nearestDyadic_spec (bits : Nat) (least : Int) {number : ℚ} (nonzero : number ≠ 0) :
    ∃ exponent count : Int, (2 : ℚ) ^ exponent ≤ |number| ∧ |number| < 2 ^ (exponent + 1) ∧
      (nearestDyadic bits least number).toRat = count * 2 ^ lastUnit bits least exponent ∧
      |(count : ℚ) - number / 2 ^ lastUnit bits least exponent| ≤ 1 / 2 := by
  have numerator : number.num ≠ 0 := Rat.num_ne_zero.mpr nonzero
  have counted : 0 < number.num.natAbs := Int.natAbs_pos.mpr numerator
  have size : |number| = (number.num.natAbs : ℚ) / number.den := by
    rw [Nat.cast_natAbs, Int.cast_abs, ← Nat.abs_cast number.den, ← abs_div, Rat.num_div_den]
  obtain ⟨low, high⟩ := binaryExponent_spec counted number.den_pos
  rw [← size] at low high
  generalize exponentOf : binaryExponent number.num.natAbs number.den = exponent at low high
  have error := abs_countUnits_sub_le number.num.natAbs number.den_pos (lastUnit bits least exponent)
  rw [← size] at error
  unfold nearestDyadic
  simp only [numerator, ↓reduceIte, exponentOf, Dyadic.toRat_ofIntWithPrec_eq_mul_two_pow, neg_neg]
  refine ⟨exponent, _, low, high, rfl, ?_⟩
  by_cases negative : number.num < 0
  · have below : number < 0 := Rat.num_neg.mp negative
    rw [abs_of_neg below] at error
    rw [if_pos negative, ← abs_neg]
    convert error using 2
    push_cast [lastUnit]
    ring
  · have above : 0 ≤ number := Rat.num_nonneg.mp (not_lt.mp negative)
    rw [abs_of_nonneg above] at error
    rw [if_neg negative]
    exact_mod_cast error

def FitsBits (bits : Nat) (least : Int) (number : ℚ) : Prop :=
  ∃ count unit : Int, |count| < 2 ^ bits ∧ least ≤ unit ∧ number = count * 2 ^ unit

theorem intCast_eq_of_abs_sub_le_half {first second : Int}
    (near : |(first : ℚ) - second| ≤ 1 / 2) : first = second := by
  have apart : |first - second| < 1 := by
    have : (|first - second| : ℚ) < 1 := lt_of_le_of_lt near (by norm_num)
    exact_mod_cast this
  rw [Int.abs_lt_one_iff] at apart
  omega

/-- A whole count of units is rounded to itself, whatever the last kept place below it. -/
theorem exists_count_of_le {unit place : Int} (below : place ≤ unit) (count : Int) :
    ∃ other : Int, (count : ℚ) * 2 ^ unit = other * 2 ^ place := by
  obtain ⟨gap, rfl⟩ := Int.le.dest below
  refine ⟨count * 2 ^ gap, ?_⟩
  rw [zpow_add₀ two_ne_zero, zpow_natCast]
  push_cast
  ring

theorem nearestDyadic_of_count {bits : Nat} {least : Int} {number : ℚ} (nonzero : number ≠ 0)
    (counted : ∀ exponent : Int, (2 : ℚ) ^ exponent ≤ |number| →
      ∃ count : Int, number = count * 2 ^ lastUnit bits least exponent) :
    (nearestDyadic bits least number).toRat = number := by
  obtain ⟨exponent, count, low, _, rounded, near⟩ := nearestDyadic_spec bits least nonzero
  obtain ⟨exact, same⟩ := counted exponent low
  have whole : number / 2 ^ lastUnit bits least exponent = exact := by
    rw [same, mul_div_cancel_right₀ _ (zpow_ne_zero _ two_ne_zero)]
  rw [whole] at near
  rw [rounded, intCast_eq_of_abs_sub_le_half near, ← same]

theorem nearestDyadic_of_fitsBits {bits : Nat} {least : Int} {number : ℚ}
    (fits : FitsBits bits least number) : (nearestDyadic bits least number).toRat = number := by
  by_cases nonzero : number = 0
  · simp [nonzero, nearestDyadic]
  · obtain ⟨count, unit, small, place, same⟩ := fits
    refine nearestDyadic_of_count nonzero ?_
    intro exponent low
    have size : |number| < 2 ^ ((bits : Int) + unit) := by
      have positive : (0 : ℚ) < 2 ^ unit := zpow_pos two_pos unit
      rw [same, abs_mul, abs_of_pos positive, zpow_add₀ two_ne_zero, zpow_natCast]
      refine mul_lt_mul_of_pos_right ?_ positive
      exact_mod_cast small
    have exponentBelow : exponent < bits + unit :=
      (zpow_lt_zpow_iff_right₀ one_lt_two).mp (lt_of_le_of_lt low size)
    have placed : lastUnit bits least exponent ≤ unit := by
      unfold lastUnit
      omega
    rw [same]
    exact exists_count_of_le placed count

/-- Whatever a number is rounded to fits into the bits. -/
theorem fitsBits_nearestDyadic {bits : Nat} (some : 0 < bits) (least : Int) (number : ℚ) :
    FitsBits bits least (nearestDyadic bits least number).toRat := by
  by_cases nonzero : number = 0
  · refine ⟨0, least, by simp, le_refl _, ?_⟩
    simp [nonzero, nearestDyadic]
  · obtain ⟨exponent, count, _, high, rounded, near⟩ := nearestDyadic_spec bits least nonzero
    have reach : exponent + 1 ≤ bits + lastUnit bits least exponent := by
      unfold lastUnit
      omega
    have bounded : |number / 2 ^ lastUnit bits least exponent| < 2 ^ bits := by
      have positive : (0 : ℚ) < 2 ^ lastUnit bits least exponent := zpow_pos two_pos _
      rw [abs_div, abs_of_pos positive, div_lt_iff₀ positive, ← zpow_natCast,
        ← zpow_add₀ two_ne_zero]
      exact lt_of_lt_of_le high (zpow_le_zpow_right₀ one_le_two reach)
    have size : |count| ≤ 2 ^ bits := by
      have sum := abs_add_le ((count : ℚ) - number / 2 ^ lastUnit bits least exponent)
        (number / 2 ^ lastUnit bits least exponent)
      rw [sub_add_cancel] at sum
      have below : (|count| : ℚ) < 2 ^ bits + 1 := by linarith
      have : |count| < 2 ^ bits + 1 := by exact_mod_cast below
      omega
    rw [rounded]
    rcases lt_or_eq_of_le size with small | full
    · exact ⟨count, _, small, le_max_right _ _, rfl⟩
    · -- A carry out of the bits leaves a power of two, which is one unit of the next place.
      obtain ⟨rest, rfl⟩ : ∃ rest, bits = rest + 1 := ⟨bits - 1, by omega⟩
      have half : count = 2 ^ rest * 2 ∨ count = -2 ^ rest * 2 := by
        rcases abs_cases count with ⟨same, _⟩ | ⟨same, _⟩ <;> rw [same, pow_succ] at full <;> omega
      have placed : least ≤ lastUnit (rest + 1) least exponent + 1 := by
        unfold lastUnit
        omega
      have smaller : (2 : Int) ^ rest < 2 ^ (rest + 1) := by
        have := pow_pos (two_pos : (0 : Int) < 2) rest
        rw [pow_succ]
        omega
      rcases half with same | same
      · refine ⟨2 ^ rest, _, by rwa [abs_pow, abs_two], placed, ?_⟩
        rw [same, zpow_add₀ two_ne_zero]
        push_cast
        ring
      · refine ⟨-2 ^ rest, _, by rwa [abs_neg, abs_pow, abs_two], placed, ?_⟩
        rw [same, zpow_add₀ two_ne_zero]
        push_cast
        ring

theorem abs_nearestDyadic_sub_le {bits : Nat} {least : Int} {number : ℚ}
    (above : (2 : ℚ) ^ (least + bits - 1) ≤ |number|) :
    |(nearestDyadic bits least number).toRat - number| ≤ |number| / 2 ^ bits := by
  have nonzero : number ≠ 0 := by
    rintro rfl
    rw [abs_zero] at above
    exact absurd above (not_le.mpr (zpow_pos two_pos _))
  obtain ⟨exponent, count, low, high, rounded, near⟩ := nearestDyadic_spec bits least nonzero
  have reached : least + bits - 1 < exponent + 1 :=
    (zpow_lt_zpow_iff_right₀ one_lt_two).mp (lt_of_le_of_lt above high)
  have place : lastUnit bits least exponent = exponent + 1 - bits := by
    unfold lastUnit
    omega
  rw [place] at rounded near
  have positive : (0 : ℚ) < 2 ^ (exponent + 1 - bits : Int) := zpow_pos two_pos _
  have scaled : (count : ℚ) * 2 ^ (exponent + 1 - bits : Int) - number =
      (count - number / 2 ^ (exponent + 1 - bits : Int)) * 2 ^ (exponent + 1 - bits : Int) := by
    rw [sub_mul, div_mul_cancel₀ _ positive.ne']
  calc |(nearestDyadic bits least number).toRat - number|
      = |(count : ℚ) - number / 2 ^ (exponent + 1 - bits : Int)| *
          2 ^ (exponent + 1 - bits : Int) := by
        rw [rounded, scaled, abs_mul, abs_of_pos positive]
    _ ≤ 1 / 2 * 2 ^ (exponent + 1 - bits : Int) := mul_le_mul_of_nonneg_right near positive.le
    _ = 2 ^ exponent / 2 ^ bits := by
        rw [zpow_sub₀ two_ne_zero, zpow_add₀ two_ne_zero, zpow_natCast, zpow_one]
        ring
    _ ≤ |number| / 2 ^ bits := by
        exact div_le_div_of_nonneg_right low (by positivity)

theorem abs_nearestDyadic_le (bits : Nat) (least : Int) (number : ℚ) :
    |(nearestDyadic bits least number).toRat| ≤ 2 * |number| := by
  by_cases nonzero : number = 0
  · simp [nonzero, nearestDyadic]
  · obtain ⟨exponent, count, _, _, rounded, near⟩ := nearestDyadic_spec bits least nonzero
    have positive : (0 : ℚ) < 2 ^ lastUnit bits least exponent := zpow_pos two_pos _
    have size : |(count : ℚ)| ≤ 2 * |number / 2 ^ lastUnit bits least exponent| := by
      by_cases none : count = 0
      · simp [none]
      · have one : (1 : ℚ) ≤ |(count : ℚ)| := by exact_mod_cast Int.one_le_abs none
        have apart := abs_sub_abs_le_abs_sub (count : ℚ) (number / 2 ^ lastUnit bits least exponent)
        linarith
    rw [rounded, abs_mul, abs_of_pos positive]
    calc |(count : ℚ)| * 2 ^ lastUnit bits least exponent
        ≤ 2 * |number / 2 ^ lastUnit bits least exponent| * 2 ^ lastUnit bits least exponent :=
          mul_le_mul_of_nonneg_right size positive.le
      _ = 2 * |number| := by
          rw [abs_div, abs_of_pos positive, mul_assoc, div_mul_cancel₀ _ positive.ne']

theorem nearestDyadic_intCast (bits : Nat) (least number : Int) :
    ∃ rounded : Int, (nearestDyadic bits least number).toRat = rounded := by
  by_cases zero : number = 0
  · exact ⟨0, by simp [zero, nearestDyadic]⟩
  · obtain ⟨exponent, count, _, _, rounded, near⟩ :=
      nearestDyadic_spec bits least (Int.cast_ne_zero.mpr zero : (number : ℚ) ≠ 0)
    rcases le_total (lastUnit bits least exponent) 0 with below | above
    · -- All places down to the ones are kept.
      obtain ⟨exact, same⟩ := exists_count_of_le below number
      rw [zpow_zero, mul_one] at same
      refine ⟨number, ?_⟩
      rw [same, mul_div_cancel_right₀ _ (zpow_ne_zero _ two_ne_zero)] at near
      rw [rounded, intCast_eq_of_abs_sub_le_half near, same]
    · obtain ⟨whole, same⟩ := exists_count_of_le above count
      rw [zpow_zero, mul_one] at same
      exact ⟨whole, rounded.trans same⟩

@[simp] theorem toRat_absDyadic (number : Dyadic) : (absDyadic number).toRat = |number.toRat| := by
  unfold absDyadic
  by_cases negative : number < 0
  · have below : number.toRat < 0 := by simpa using Dyadic.toRat_lt_toRat_iff.mpr negative
    rw [if_pos negative, Dyadic.toRat_neg, abs_of_neg below]
  · have above : 0 ≤ number.toRat := by
      have := mt Dyadic.toRat_lt_toRat_iff.mp negative
      simpa using this
    rw [if_neg negative, abs_of_nonneg above]

namespace Binary64

theorem toRat_bound : bound.toRat = 2 ^ (1024 : Int) := by
  simp [bound, Dyadic.toRat_ofIntWithPrec_eq_mul_two_pow]

/-- A number whose double is below the bound of the format is rounded to a finite one. -/
theorem ofRat_of_lt {number : ℚ} (small : |number| < 2 ^ (1023 : Int)) :
    ofRat number = .finite (nearestDyadic significantBits leastExponent number) := by
  have below : absDyadic (nearestDyadic significantBits leastExponent number) < bound := by
    rw [← Dyadic.toRat_lt_toRat_iff, toRat_absDyadic, toRat_bound]
    calc |(nearestDyadic significantBits leastExponent number).toRat| ≤ 2 * |number| :=
          abs_nearestDyadic_le _ _ _
      _ < 2 * 2 ^ (1023 : Int) := by linarith
      _ = 2 ^ (1024 : Int) := by
          rw [show (1024 : Int) = 1 + 1023 from rfl, zpow_add₀ two_ne_zero, zpow_one]
  simp [ofRat, below]

end Binary64

end Underwriting
