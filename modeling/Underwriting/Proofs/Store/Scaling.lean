import Mathlib.Algebra.Order.Ring.Pow
import Underwriting.Proofs.Number.Rounding
import Underwriting.Store.Numeral

/-!
How far a number drifts while powers of ten are multiplied on one at a time. Each multiplication
rounds twice to 64 bits, the power and the product; errors are counted in such roundings, so that
they add up along the way. A number of an amount's size is brought between `10 ^ 17` and `10 ^ 19` in
fewer steps than allowed.
-/

namespace Underwriting.Store

/-- The largest factor between a number and its rounding to 64 bits, in either direction. -/
def growth : ℚ := 1 + 1 / 2 ^ 63

theorem one_le_growth_pow (count : Nat) : 1 ≤ growth ^ count :=
  one_le_pow₀ (by norm_num [growth])

theorem growth_pow_pos (count : Nat) : 0 < growth ^ count :=
  lt_of_lt_of_le one_pos (one_le_growth_pow count)

theorem growth_pow_mul_le (count : Nat) : growth ^ count * (1 - count / 2 ^ 63) ≤ 1 := by
  have shrinks : (1 : ℚ) + count * (-(1 / 2 ^ 63)) ≤ (1 + -(1 / 2 ^ 63)) ^ count :=
    one_add_mul_le_pow (by norm_num) count
  have inverse : growth * (1 + -(1 / 2 ^ 63)) ≤ 1 := by norm_num [growth]
  have nonnegative : (0 : ℚ) ≤ growth * (1 + -(1 / 2 ^ 63)) := by norm_num [growth]
  calc growth ^ count * (1 - count / 2 ^ 63)
      = growth ^ count * (1 + count * (-(1 / 2 ^ 63))) := by ring
    _ ≤ growth ^ count * (1 + -(1 / 2 ^ 63)) ^ count :=
        mul_le_mul_of_nonneg_left shrinks (growth_pow_pos count).le
    _ = (growth * (1 + -(1 / 2 ^ 63))) ^ count := by rw [mul_pow]
    _ ≤ 1 := pow_le_one₀ nonnegative inverse

theorem growth_pow_le {count : Nat} (few : count ≤ 2500) : growth ^ count ≤ 1 + 3 / 10 ^ 16 := by
  have bounded := growth_pow_mul_le count
  have small : (count : ℚ) / 2 ^ 63 ≤ 2500 / 2 ^ 63 := by
    have : (count : ℚ) ≤ 2500 := by exact_mod_cast few
    gcongr
  have positive := growth_pow_pos count
  have shrunk : growth ^ count * (1 - 2500 / 2 ^ 63) ≤ 1 :=
    (mul_le_mul_of_nonneg_left (by linarith) positive.le).trans bounded
  norm_num at shrunk ⊢
  linarith

theorem growth_pow_le_two {count : Nat} (few : count ≤ 2 ^ 62) : growth ^ count ≤ 2 := by
  have bounded := growth_pow_mul_le count
  have half : (count : ℚ) / 2 ^ 63 ≤ 1 / 2 := by
    have : (count : ℚ) ≤ 2 ^ 62 := by exact_mod_cast few
    rw [div_le_div_iff₀ (by norm_num) (by norm_num)]
    linarith
  have positive := growth_pow_pos count
  nlinarith

/-- Two positive numbers are at most so many roundings apart. -/
structure Near (count : Nat) (left right : ℚ) : Prop where
  above : left ≤ right * growth ^ count
  below : right ≤ left * growth ^ count

namespace Near

variable {first second : Nat} {left middle right : ℚ}

theorem refl (number : ℚ) : Near 0 number number := by
  constructor <;> simp

theorem symm (near : Near first left right) : Near first right left := ⟨near.below, near.above⟩

theorem trans (near : Near first left middle) (further : Near second middle right) :
    Near (first + second) left right := by
  constructor
  · calc left ≤ middle * growth ^ first := near.above
      _ ≤ right * growth ^ second * growth ^ first :=
          mul_le_mul_of_nonneg_right further.above (growth_pow_pos first).le
      _ = right * growth ^ (first + second) := by rw [pow_add]; ring
  · calc right ≤ middle * growth ^ second := further.below
      _ ≤ left * growth ^ first * growth ^ second :=
          mul_le_mul_of_nonneg_right near.below (growth_pow_pos second).le
      _ = left * growth ^ (first + second) := by rw [pow_add]; ring

theorem mul_right (near : Near first left right) {factor : ℚ} (nonnegative : 0 ≤ factor) :
    Near first (left * factor) (right * factor) := by
  constructor
  · calc left * factor ≤ right * growth ^ first * factor :=
          mul_le_mul_of_nonneg_right near.above nonnegative
      _ = right * factor * growth ^ first := by ring
  · calc right * factor ≤ left * growth ^ first * factor :=
          mul_le_mul_of_nonneg_right near.below nonnegative
      _ = left * factor * growth ^ first := by ring

theorem mul_left (near : Near first left right) {factor : ℚ} (nonnegative : 0 ≤ factor) :
    Near first (factor * left) (factor * right) := by
  rw [mul_comm factor, mul_comm factor]
  exact near.mul_right nonnegative

theorem mono (near : Near first left right) (nonnegative : 0 ≤ left) (more : first ≤ second) :
    Near second left right := by
  have positive := growth_pow_pos first
  have rightNonnegative : 0 ≤ right := by
    by_contra negative
    have := mul_neg_of_neg_of_pos (not_le.mp negative) positive
    linarith [near.above]
  have grows : growth ^ first ≤ growth ^ second := pow_le_pow_right₀ (by norm_num [growth]) more
  exact ⟨near.above.trans (mul_le_mul_of_nonneg_left grows rightNonnegative),
    near.below.trans (mul_le_mul_of_nonneg_left grows nonnegative)⟩

theorem pos (near : Near first left right) (positive : 0 < right) : 0 < left := by
  by_contra notPositive
  have := mul_nonpos_of_nonpos_of_nonneg (not_lt.mp notPositive) (growth_pow_pos first).le
  linarith [near.below]

theorem le_two_mul (near : Near first left right) (few : first ≤ 2 ^ 62) (nonnegative : 0 ≤ left) :
    right ≤ 2 * left :=
  near.below.trans (by nlinarith [growth_pow_le_two few])

theorem of_abs_sub_le (error : ℚ) (nonnegative : 0 ≤ right)
    (close : |left - right| ≤ right * error) (some : 0 ≤ error) (half : error ≤ 1 / 2)
    (counted : 2 * error ≤ first / 2 ^ 63) : Near first left right := by
  have grown : (1 : ℚ) + first / 2 ^ 63 ≤ growth ^ first := by
    have := one_add_mul_le_pow (show (-2 : ℚ) ≤ 1 / 2 ^ 63 by norm_num) first
    calc (1 : ℚ) + first / 2 ^ 63 = 1 + first * (1 / 2 ^ 63) := by ring
      _ ≤ growth ^ first := this
  obtain ⟨low, high⟩ := abs_le.mp close
  have atLeast : right * (1 - error) ≤ left := by linarith
  have leftNonnegative : 0 ≤ left := (mul_nonneg nonnegative (by linarith)).trans atLeast
  constructor
  · have : right * (1 + error) ≤ right * growth ^ first :=
      mul_le_mul_of_nonneg_left (by linarith) nonnegative
    linarith
  · have recovered : 1 ≤ (1 - error) * (1 + 2 * error) := by nlinarith
    calc right ≤ right * ((1 - error) * (1 + 2 * error)) :=
          le_mul_of_one_le_right nonnegative recovered
      _ = right * (1 - error) * (1 + 2 * error) := by ring
      _ ≤ left * (1 + 2 * error) := mul_le_mul_of_nonneg_right atLeast (by linarith)
      _ ≤ left * growth ^ first := mul_le_mul_of_nonneg_left (by linarith) leftNonnegative

/-- Numbers that are few roundings apart differ by little of either. -/
theorem abs_sub_le (near : Near first left right) (few : first ≤ 2500)
    (leftNonnegative : 0 ≤ left) (rightNonnegative : 0 ≤ right) :
    |left - right| ≤ right * (4 / 10 ^ 16) := by
  have grown := growth_pow_le few
  have above := near.above.trans (mul_le_mul_of_nonneg_left grown rightNonnegative)
  have below := near.below.trans (mul_le_mul_of_nonneg_left grown leftNonnegative)
  rw [abs_le]
  constructor <;> linarith

end Near

theorem near_extended {number : ℚ} (above : (2 : ℚ) ^ (-16382 : Int) ≤ number) :
    Near 1 (extended number).toRat number := by
  have positive : 0 < number := lt_of_lt_of_le (zpow_pos two_pos _) above
  have size : |number| = number := abs_of_pos positive
  have place : (-16445 : Int) + (64 : Nat) - 1 = -16382 := by norm_num
  have close : |(extended number).toRat - number| ≤ |number| / 2 ^ 64 := by
    apply abs_nearestDyadic_sub_le
    rw [size, place]
    exact above
  rw [size, div_eq_mul_inv] at close
  exact Near.of_abs_sub_le _ positive.le close (by norm_num) (by norm_num) (by norm_num)

theorem le_ten_zpow {exponent : Int} (reach : -1000 ≤ exponent) :
    (2 : ℚ) ^ (-4000 : Int) ≤ 10 ^ exponent := by
  have base : (10 : ℚ) ^ (1000 : Nat) ≤ 2 ^ (4000 : Nat) := by
    calc (10 : ℚ) ^ (1000 : Nat) ≤ 16 ^ (1000 : Nat) :=
          pow_le_pow_left₀ (by norm_num) (by norm_num) 1000
      _ = 2 ^ (4000 : Nat) := by rw [show (16 : ℚ) = 2 ^ 4 by norm_num, ← pow_mul]
  calc (2 : ℚ) ^ (-4000 : Int) = (2 ^ (4000 : Nat))⁻¹ := by
        rw [zpow_neg, ← zpow_natCast, Nat.cast_ofNat]
    _ ≤ (10 ^ (1000 : Nat))⁻¹ := inv_anti₀ (pow_pos (by norm_num) _) base
    _ = 10 ^ (-1000 : Int) := by
        rw [zpow_neg, ← zpow_natCast, Nat.cast_ofNat]
    _ ≤ 10 ^ exponent := zpow_le_zpow_right₀ (by norm_num) reach

theorem near_extendedTen {power : Int} (reach : -1000 ≤ power) :
    Near 1 (extendedTen power).toRat (10 ^ power) := by
  rw [extendedTen, tenPower_eq]
  exact near_extended (le_trans (zpow_le_zpow_right₀ one_le_two (by norm_num)) (le_ten_zpow reach))

theorem near_timesTen {number : Dyadic} {power : Int} (reach : -1000 ≤ power)
    (above : (2 : ℚ) ^ (-16000 : Int) ≤ number.toRat * 10 ^ power) :
    Near 2 (timesTen power number).toRat (number.toRat * 10 ^ power) := by
  have powerPositive : (0 : ℚ) < 10 ^ power := zpow_pos (by norm_num) power
  have positive : 0 < number.toRat :=
    pos_of_mul_pos_left (lt_of_lt_of_le (zpow_pos two_pos _) above) powerPositive.le
  have product := (near_extendedTen reach).mul_left positive.le
  have low : (2 : ℚ) ^ (-16382 : Int) ≤ number.toRat * (extendedTen power).toRat := by
    have half := product.le_two_mul (by norm_num) (product.pos (mul_pos positive powerPositive)).le
    calc (2 : ℚ) ^ (-16382 : Int) ≤ 2 ^ (-16000 + -1 : Int) :=
          zpow_le_zpow_right₀ one_le_two (by norm_num)
      _ = 2 ^ (-16000 : Int) / 2 := by rw [zpow_add₀ two_ne_zero, zpow_neg_one, div_eq_mul_inv]
      _ ≤ number.toRat * (extendedTen power).toRat := by linarith
  have rounded : Near 1 (timesTen power number).toRat (number.toRat * (extendedTen power).toRat) :=
    near_extended low
  exact rounded.trans product

theorem reach_of_le {power : Int} {steps limit : Nat} (reach : -1000 ≤ power * limit)
    (within : steps ≤ limit) : -1000 ≤ power * steps := by
  have steps_le : (steps : Int) ≤ limit := by exact_mod_cast within
  rcases le_total 0 power with raises | lowers
  · have := Int.mul_nonneg raises (Int.natCast_nonneg steps)
    omega
  · have := mul_le_mul_of_nonpos_left steps_le lowers
    omega

theorem near_repeat {number : Dyadic} {power : Int} {steps : Nat}
    (size : (2 : ℚ) ^ (-8000 : Int) ≤ number.toRat) (few : steps ≤ 1000)
    (reach : -1000 ≤ power * steps) :
    Near (2 * steps) (Nat.repeat (timesTen power) steps number).toRat
      (number.toRat * 10 ^ (power * steps)) := by
  induction steps with
  | zero => simpa [Nat.repeat] using Near.refl number.toRat
  | succ steps ih =>
      have reachBefore := reach_of_le reach (Nat.le_succ steps)
      have reachOne : -1000 ≤ power := by
        simpa using reach_of_le reach (show 1 ≤ steps + 1 by omega)
      have before := ih (by omega) reachBefore
      have scaled := before.mul_right (zpow_nonneg (by norm_num : (0 : ℚ) ≤ 10) power)
      have joined : number.toRat * 10 ^ (power * (steps : Int)) * 10 ^ power =
          number.toRat * 10 ^ (power * ((steps + 1 : Nat) : Int)) := by
        rw [mul_assoc, ← zpow_add₀ (by norm_num)]
        push_cast
        ring_nf
      rw [joined] at scaled
      have low : (2 : ℚ) ^ (-12000 : Int) ≤ number.toRat * 10 ^ (power * ((steps + 1 : Nat) : Int)) := by
        calc (2 : ℚ) ^ (-12000 : Int) = 2 ^ (-8000 : Int) * 2 ^ (-4000 : Int) := by
              rw [show (-12000 : Int) = -8000 + -4000 from rfl, zpow_add₀ two_ne_zero]
          _ ≤ number.toRat * 10 ^ (power * ((steps + 1 : Nat) : Int)) :=
              mul_le_mul size (le_ten_zpow reach) (zpow_nonneg two_pos.le _)
                ((zpow_nonneg two_pos.le _).trans size)
      have half := scaled.le_two_mul (by omega)
        (scaled.pos (lt_of_lt_of_le (zpow_pos two_pos _) low)).le
      have above : (2 : ℚ) ^ (-16000 : Int) ≤
          (Nat.repeat (timesTen power) steps number).toRat * 10 ^ power := by
        calc (2 : ℚ) ^ (-16000 : Int) ≤ 2 ^ (-12000 + -1 : Int) :=
              zpow_le_zpow_right₀ one_le_two (by norm_num)
          _ = 2 ^ (-12000 : Int) / 2 := by rw [zpow_add₀ two_ne_zero, zpow_neg_one, div_eq_mul_inv]
          _ ≤ (Nat.repeat (timesTen power) steps number).toRat * 10 ^ power := by linarith
      have step := near_timesTen reachOne above
      have total := step.trans scaled
      rw [show 2 * (steps + 1) = 2 + 2 * steps by ring]
      exact total

theorem Near.repeated {start : ℚ} {number : Dyadic} {count : Nat} {exponent : Int}
    (near : Near count number.toRat (start * 10 ^ exponent)) (power : Int) (steps : Nat)
    (size : (2 : ℚ) ^ (-7000 : Int) ≤ start * 10 ^ exponent) (counted : count ≤ 2 ^ 62)
    (few : steps ≤ 1000) (reach : -1000 ≤ power * steps) :
    Near (count + 2 * steps) (Nat.repeat (timesTen power) steps number).toRat
      (start * 10 ^ (exponent + power * steps)) := by
  have positive : 0 < start * 10 ^ exponent := lt_of_lt_of_le (zpow_pos two_pos _) size
  have half := near.le_two_mul counted (near.pos positive).le
  have large : (2 : ℚ) ^ (-8000 : Int) ≤ number.toRat := by
    calc (2 : ℚ) ^ (-8000 : Int) ≤ 2 ^ (-7000 + -1 : Int) :=
          zpow_le_zpow_right₀ one_le_two (by norm_num)
      _ = 2 ^ (-7000 : Int) / 2 := by rw [zpow_add₀ two_ne_zero, zpow_neg_one, div_eq_mul_inv]
      _ ≤ number.toRat := by linarith
  have further := near.mul_right (zpow_nonneg (by norm_num : (0 : ℚ) ≤ 10) (power * steps))
  rw [mul_assoc, ← zpow_add₀ (by norm_num)] at further
  have total := (near_repeat large few reach).trans further
  rwa [Nat.add_comm] at total

/-- Multiplying by a power of ten takes few roundings. -/
theorem near_timesTenPower {number : Dyadic} (one : 1 ≤ number.toRat) {exponent : Int}
    (bounded : exponent.natAbs < 1000) :
    Near 54 (timesTenPower exponent number).toRat (number.toRat * 10 ^ exponent) := by
  have start : Near 0 number.toRat (number.toRat * 10 ^ (0 : Int)) := by
    simpa using Near.refl number.toRat
  have large {reached : Int} (reach : -1000 ≤ reached) :
      (2 : ℚ) ^ (-7000 : Int) ≤ number.toRat * 10 ^ reached := by
    calc (2 : ℚ) ^ (-7000 : Int) ≤ 2 ^ (-4000 : Int) :=
          zpow_le_zpow_right₀ one_le_two (by norm_num)
      _ ≤ 1 * 10 ^ reached := by rw [one_mul]; exact le_ten_zpow reach
      _ ≤ number.toRat * 10 ^ reached :=
          mul_le_mul_of_nonneg_right one (zpow_nonneg (by norm_num) _)
  obtain ⟨sign, unit, size⟩ : ∃ sign : Int, (sign = 1 ∨ sign = -1) ∧
      ∀ power : Int, (if exponent < 0 then -power else power) = sign * power := by
    by_cases lowers : exponent < 0
    · exact ⟨-1, Or.inr rfl, fun power => by simp [lowers]⟩
    · exact ⟨1, Or.inl rfl, fun power => by simp [lowers]⟩
  have signed : exponent = sign * exponent.natAbs := by
    have := size exponent.natAbs
    split at this <;> omega
  have digits : exponent.natAbs =
      100 * (exponent.natAbs / 100) + 10 * (exponent.natAbs / 10 % 10) + exponent.natAbs % 10 := by
    omega
  have hundredsBound : exponent.natAbs / 100 ≤ 9 := by omega
  have tensBound : exponent.natAbs / 10 % 10 ≤ 9 := by omega
  have onesBound : exponent.natAbs % 10 ≤ 9 := by omega
  unfold timesTenPower
  simp only [size]
  generalize exponent.natAbs / 100 = hundreds at digits hundredsBound ⊢
  generalize exponent.natAbs / 10 % 10 = tens at digits tensBound ⊢
  generalize exponent.natAbs % 10 = ones at digits onesBound ⊢
  have total : (0 : Int) + sign * 100 * hundreds + sign * 10 * tens + sign * 1 * ones = exponent := by
    rw [signed, digits]
    push_cast
    ring
  have afterHundreds := start.repeated (sign * 100) hundreds (large (by norm_num))
    (by norm_num) (by omega) (by rcases unit with rfl | rfl <;> omega)
  have afterTens := afterHundreds.repeated (sign * 10) tens
    (large (by rcases unit with rfl | rfl <;> omega)) (by omega) (by omega)
    (by rcases unit with rfl | rfl <;> omega)
  have afterOnes := afterTens.repeated (sign * 1) ones
    (large (by rcases unit with rfl | rfl <;> omega)) (by omega) (by omega)
    (by rcases unit with rfl | rfl <;> omega)
  rw [total] at afterOnes
  have positive : 0 < number.toRat * 10 ^ exponent :=
    mul_pos (lt_of_lt_of_le one_pos one) (zpow_pos (by norm_num) _)
  exact afterOnes.mono (afterOnes.pos positive).le (by omega)

theorem repeat_succ {α : Type} (step : α → α) (count : Nat) (start : α) :
    Nat.repeat step (count + 1) start = Nat.repeat step count (step start) := by
  induction count with
  | zero => rfl
  | succ count ih => exact congrArg step ih

/-- A loop of multiplications by one power takes some count of steps: at each of them the number was
beyond, and behind them it is not, unless the steps have run out. -/
theorem scaleWhile_eq (beyond : Dyadic → Bool) (power : Int) (fuel : Nat) (number : Dyadic)
    (exponent : Int) :
    ∃ steps ≤ fuel, scaleWhile beyond power fuel number exponent =
        (Nat.repeat (timesTen power) steps number, exponent - power * steps) ∧
      (∀ earlier < steps, beyond (Nat.repeat (timesTen power) earlier number) = true) ∧
      (steps < fuel → beyond (Nat.repeat (timesTen power) steps number) = false) := by
  induction fuel generalizing number exponent with
  | zero => exact ⟨0, le_refl _, by simp [scaleWhile, Nat.repeat], by simp, by simp⟩
  | succ fuel ih =>
      cases goesOn : beyond number with
      | false => exact ⟨0, by omega, by simp [scaleWhile, goesOn, Nat.repeat], by simp, fun _ => goesOn⟩
      | true =>
          obtain ⟨steps, within, ran, before, behind⟩ := ih (timesTen power number) (exponent - power)
          refine ⟨steps + 1, by omega, ?_, ?_, ?_⟩
          · simp only [scaleWhile, goesOn, if_true, ran, repeat_succ]
            push_cast
            ring_nf
          · intro earlier below
            cases earlier with
            | zero => exact goesOn
            | succ earlier =>
                rw [repeat_succ]
                exact before earlier (by omega)
          · intro room
            rw [repeat_succ]
            exact behind (by omega)

/-- A loop that cannot take more steps than this stops in time, near the number times the powers that
it took; unless it took none, its last step started beyond. -/
theorem scaleWhile_spec (beyond : Dyadic → Bool) (power : Int) {fuel limit : Nat} {number : Dyadic}
    (exponent : Int) (room : limit < fuel) (few : limit ≤ 1000) (reach : -1000 ≤ power * limit)
    (size : (2 : ℚ) ^ (-8000 : Int) ≤ number.toRat)
    (stops : ∀ reached : Dyadic, Near (2 * limit) reached.toRat
      (number.toRat * 10 ^ (power * limit)) → beyond reached = false) :
    ∃ steps result, steps ≤ limit ∧
      scaleWhile beyond power fuel number exponent = (result, exponent - power * steps) ∧
      Near (2 * steps) result.toRat (number.toRat * 10 ^ (power * steps)) ∧
      beyond result = false ∧
      (result = number ∨ ∃ last : Dyadic, beyond last = true ∧
        Near (4 * limit) result.toRat (last.toRat * 10 ^ power)) := by
  obtain ⟨steps, _, ran, before, behind⟩ := scaleWhile_eq beyond power fuel number exponent
  have within : steps ≤ limit := by
    by_contra more
    have goesOn := before limit (by omega)
    rw [stops _ (near_repeat size few reach)] at goesOn
    cases goesOn
  have near := near_repeat size (by omega) (reach_of_le reach within)
  refine ⟨steps, _, within, ran, near, behind (by omega), ?_⟩
  cases steps with
  | zero => exact Or.inl rfl
  | succ earlier =>
      refine Or.inr ⟨_, before earlier (by omega), ?_⟩
      have last := near_repeat size (by omega)
        (reach_of_le reach (show earlier ≤ limit by omega))
      have step := last.symm.mul_right (zpow_nonneg (by norm_num : (0 : ℚ) ≤ 10) power)
      have joined : number.toRat * 10 ^ (power * (earlier : Int)) * 10 ^ power =
          number.toRat * 10 ^ (power * ((earlier + 1 : Nat) : Int)) := by
        rw [mul_assoc, ← zpow_add₀ (by norm_num)]
        push_cast
        ring_nf
      rw [joined] at step
      have positive : 0 < number.toRat * 10 ^ (power * ((earlier + 1 : Nat) : Int)) :=
        mul_pos (lt_of_lt_of_le (zpow_pos two_pos _) size) (zpow_pos (by norm_num) _)
      exact (near.trans step).mono (near.pos positive).le (by omega)

theorem scaleWhile_of_not_beyond {beyond : Dyadic → Bool} {number : Dyadic}
    (stopped : beyond number = false) (power : Int) (fuel : Nat) (exponent : Int) :
    scaleWhile beyond power fuel number exponent = (number, exponent) := by
  cases fuel <;> simp [scaleWhile, stopped]

theorem decide_le_eq_false_iff {left right : Dyadic} :
    decide (left ≤ right) = false ↔ right.toRat < left.toRat := by
  rw [decide_eq_false_iff_not, ← Dyadic.toRat_le_toRat_iff, not_le]

theorem decide_lt_eq_false_iff {left right : Dyadic} :
    decide (left < right) = false ↔ right.toRat ≤ left.toRat := by
  rw [decide_eq_false_iff_not, ← Dyadic.toRat_lt_toRat_iff, not_lt]

/-- Dividing until the number is below a threshold leaves it less than one step below. -/
theorem scaleWhile_down (threshold : Dyadic) (power : Int) (limit : Nat) {number : Dyadic}
    (exponent : Int)
    (few : limit ≤ 32) (reach : -1000 ≤ power * limit)
    (size : (2 : ℚ) ^ (-8000 : Int) ≤ number.toRat)
    (stops : 2 * (number.toRat * 10 ^ (power * limit)) < threshold.toRat) :
    ∃ steps result, steps ≤ limit ∧
      scaleWhile (threshold ≤ ·) power 64 number exponent = (result, exponent - power * steps) ∧
      Near (2 * steps) result.toRat (number.toRat * 10 ^ (power * steps)) ∧
      result.toRat < threshold.toRat ∧
      (result = number ∨ threshold.toRat * 10 ^ power ≤ 2 * result.toRat) := by
  have positive : 0 < number.toRat := lt_of_lt_of_le (zpow_pos two_pos _) size
  have powerPositive : (0 : ℚ) < 10 ^ power := zpow_pos (by norm_num) power
  obtain ⟨steps, result, within, ran, near, stopped, last⟩ := scaleWhile_spec
    (threshold ≤ ·) power exponent (show limit < 64 by omega) (by omega) reach size (by
      intro reached near
      have bounded := near.symm.le_two_mul (by omega)
        (mul_nonneg positive.le (zpow_nonneg (by norm_num) _))
      exact decide_le_eq_false_iff.mpr (lt_of_le_of_lt bounded stops))
  refine ⟨steps, result, within, ran, near, decide_le_eq_false_iff.mp stopped, ?_⟩
  rcases last with same | ⟨last, started, step⟩
  · exact Or.inl same
  · have above : threshold.toRat ≤ last.toRat :=
      Dyadic.toRat_le_toRat_iff.mpr (of_decide_eq_true started)
    have resultPositive := near.pos (mul_pos positive (zpow_pos (by norm_num) _))
    have bounded := step.le_two_mul (by omega) resultPositive.le
    exact Or.inr ((mul_le_mul_of_nonneg_right above powerPositive.le).trans bounded)

theorem scaleWhile_up (threshold : Dyadic) (power : Int) (limit : Nat) {number : Dyadic}
    (exponent : Int)
    (few : limit ≤ 32) (raises : 0 ≤ power) (size : (2 : ℚ) ^ (-8000 : Int) ≤ number.toRat)
    (stops : 2 * threshold.toRat ≤ number.toRat * 10 ^ (power * limit)) :
    ∃ steps result, steps ≤ limit ∧
      scaleWhile (· < threshold) power 64 number exponent = (result, exponent - power * steps) ∧
      Near (2 * steps) result.toRat (number.toRat * 10 ^ (power * steps)) ∧
      threshold.toRat ≤ result.toRat ∧
      (result = number ∨ result.toRat ≤ 2 * (threshold.toRat * 10 ^ power)) := by
  have positive : 0 < number.toRat := lt_of_lt_of_le (zpow_pos two_pos _) size
  have powerPositive : (0 : ℚ) < 10 ^ power := zpow_pos (by norm_num) power
  obtain ⟨steps, result, within, ran, near, stopped, last⟩ := scaleWhile_spec
    (· < threshold) power exponent (show limit < 64 by omega) (by omega)
    (by nlinarith [mul_nonneg raises (Int.natCast_nonneg limit)]) size (by
      intro reached near
      have reachedPositive := near.pos (mul_pos positive (zpow_pos (by norm_num) _))
      have bounded := near.le_two_mul (by omega) reachedPositive.le
      exact decide_lt_eq_false_iff.mpr (by linarith))
  refine ⟨steps, result, within, ran, near, decide_lt_eq_false_iff.mp stopped, ?_⟩
  rcases last with same | ⟨last, started, step⟩
  · exact Or.inl same
  · have below : last.toRat < threshold.toRat :=
      Dyadic.toRat_lt_toRat_iff.mpr (of_decide_eq_true started)
    have resultPositive := near.pos (mul_pos positive (zpow_pos (by norm_num) _))
    have lastPositive : 0 < last.toRat * 10 ^ power := step.symm.pos resultPositive
    have bounded := step.symm.le_two_mul (by omega) lastPositive.le
    have scaled := mul_le_mul_of_nonneg_right below.le powerPositive.le
    exact Or.inr (by linarith)

theorem toRat_extendedTen {power : Nat} (few : power ≤ 27) :
    (extendedTen power).toRat = 10 ^ power := by
  have fits : FitsBits 64 (-16445) ((10 : ℚ) ^ power) := by
    refine ⟨5 ^ power, power, ?_, by omega, ?_⟩
    · rw [abs_of_pos (by positivity)]
      exact lt_of_le_of_lt (pow_le_pow_right₀ (by norm_num) few) (by norm_num)
    · rw [zpow_natCast]
      push_cast
      rw [← mul_pow]
      norm_num
  rw [extendedTen, extended, tenPower_eq, zpow_natCast]
  exact nearestDyadic_of_fitsBits fits

theorem extendedTen_bounds {power : Int} (reach : -1000 ≤ power) :
    (10 : ℚ) ^ power ≤ 2 * (extendedTen power).toRat ∧
      (extendedTen power).toRat ≤ 2 * 10 ^ power := by
  have near := near_extendedTen reach
  have positive : (0 : ℚ) < 10 ^ power := zpow_pos (by norm_num) power
  exact ⟨near.le_two_mul (by norm_num) (near.pos positive).le,
    near.symm.le_two_mul (by norm_num) positive.le⟩

theorem size_of_one_le {number : ℚ} (above : 1 ≤ number) : (2 : ℚ) ^ (-8000 : Int) ≤ number :=
  le_trans (zpow_le_one_of_nonpos₀ one_le_two (by norm_num)) above

theorem Near.scaled {first second : Nat} {start middle last : ℚ} {exponent further : Int}
    (near : Near first middle (start * 10 ^ exponent))
    (next : Near second last (middle * 10 ^ further)) :
    Near (second + first) last (start * 10 ^ (exponent + further)) := by
  have shifted := near.mul_right (zpow_nonneg (by norm_num : (0 : ℚ) ≤ 10) further)
  rw [mul_assoc, ← zpow_add₀ (by norm_num)] at shifted
  exact next.trans shifted

theorem normalized_of_large {value : Dyadic} (large : (10 : ℚ) ^ 19 ≤ value.toRat)
    (high : value.toRat ≤ 10 ^ 30) :
    ∃ number exponent, normalized value = (number, exponent) ∧ (10 : ℚ) ^ 17 ≤ number.toRat ∧
      number.toRat < 10 ^ 19 ∧ Near 32 number.toRat (value.toRat * 10 ^ (-exponent)) := by
  have nineteen : (extendedTen 19).toRat = 10 ^ 19 := toRat_extendedTen (by norm_num)
  obtain ⟨far, _⟩ := extendedTen_bounds (show (-1000 : Int) ≤ 119 by norm_num)
  obtain ⟨middleLow, middleHigh⟩ := extendedTen_bounds (show (-1000 : Int) ≤ 29 by norm_num)
  norm_num at far middleLow middleHigh
  have ranFirst : scaleWhile (extendedTen 119 ≤ ·) (-100) 64 value 0 = (value, 0) :=
    scaleWhile_of_not_beyond (decide_le_eq_false_iff.mpr (by linarith)) _ _ _
  obtain ⟨tens, second, _, ranSecond, nearSecond, belowSecond, casesSecond⟩ :=
    scaleWhile_down (extendedTen 29) (-10) 2 0 (by norm_num) (by norm_num)
      (size_of_one_le (by linarith : (1 : ℚ) ≤ value.toRat)) (by norm_num; linarith)
  have secondLow : (10 : ℚ) ^ 18 ≤ second.toRat := by
    rcases casesSecond with rfl | above
    · linarith
    · norm_num at above
      linarith
  obtain ⟨ones, third, _, ranThird, nearThird, belowThird, casesThird⟩ :=
    scaleWhile_down (extendedTen 19) (-1) 12 (0 - -10 * (tens : Int)) (by norm_num) (by norm_num)
      (size_of_one_le (by linarith : (1 : ℚ) ≤ second.toRat)) (by rw [nineteen]; norm_num; linarith)
  rw [nineteen] at belowThird casesThird
  have thirdLow : (10 : ℚ) ^ 17 ≤ third.toRat := by
    rcases casesThird with rfl | above
    · linarith
    · norm_num at above
      linarith
  have reached : extendedTen 19 ≤ value := by
    rw [← Dyadic.toRat_le_toRat_iff, nineteen]
    exact large
  refine ⟨third, 0 - -10 * (tens : Int) - -1 * (ones : Int), ?_, thirdLow, belowThird, ?_⟩
  · unfold normalized
    simp only [reached, if_true, ranFirst, ranSecond, ranThird]
  · have total := nearSecond.scaled nearThird
    have exponents : -(0 - -10 * (tens : Int) - -1 * (ones : Int)) =
        -10 * (tens : Int) + -1 * (ones : Int) := by
      ring
    rw [exponents]
    exact total.mono (by linarith) (by omega)

theorem normalized_of_small {value : Dyadic} (small : value.toRat < (10 : ℚ) ^ 19)
    (low : (10 : ℚ) ^ (-30 : Int) ≤ value.toRat) :
    ∃ number exponent, normalized value = (number, exponent) ∧ (10 : ℚ) ^ 17 ≤ number.toRat ∧
      number.toRat < 10 ^ 19 ∧ Near 32 number.toRat (value.toRat * 10 ^ (-exponent)) := by
  have nineteen : (extendedTen 19).toRat = 10 ^ 19 := toRat_extendedTen (by norm_num)
  have seventeen : (extendedTen 17).toRat = 10 ^ 17 := toRat_extendedTen (by norm_num)
  have seven : (extendedTen 7).toRat = 10 ^ 7 := toRat_extendedTen (by norm_num)
  obtain ⟨_, farHigh⟩ := extendedTen_bounds (show (-1000 : Int) ≤ -97 by norm_num)
  norm_num at farHigh
  have size : (2 : ℚ) ^ (-8000 : Int) ≤ value.toRat := by
    refine le_trans ?_ low
    exact le_trans (zpow_le_zpow_right₀ one_le_two (by norm_num)) (le_ten_zpow (by norm_num))
  norm_num at low
  have ranFirst : scaleWhile (· < extendedTen (-97)) 100 64 value 0 = (value, 0) :=
    scaleWhile_of_not_beyond (decide_lt_eq_false_iff.mpr (by linarith)) _ _ _
  obtain ⟨tens, second, _, ranSecond, nearSecond, aboveSecond, casesSecond⟩ :=
    scaleWhile_up (extendedTen 7) 10 4 0 (by norm_num) (by norm_num) size
      (by rw [seven]; norm_num; linarith)
  rw [seven] at aboveSecond casesSecond
  have secondHigh : second.toRat < (10 : ℚ) ^ 19 := by
    rcases casesSecond with rfl | below
    · exact small
    · norm_num at below
      linarith
  obtain ⟨ones, third, _, ranThird, nearThird, aboveThird, casesThird⟩ :=
    scaleWhile_up (extendedTen 17) 1 11 (0 - 10 * (tens : Int)) (by norm_num) (by norm_num)
      (size_of_one_le (by linarith : (1 : ℚ) ≤ second.toRat)) (by rw [seventeen]; norm_num; linarith)
  rw [seventeen] at aboveThird casesThird
  have thirdHigh : third.toRat < (10 : ℚ) ^ 19 := by
    rcases casesThird with rfl | below
    · exact secondHigh
    · norm_num at below
      linarith
  have notReached : ¬extendedTen 19 ≤ value := by
    rw [← Dyadic.toRat_le_toRat_iff, nineteen]
    exact not_le.mpr small
  refine ⟨third, 0 - 10 * (tens : Int) - 1 * (ones : Int), ?_, aboveThird, thirdHigh, ?_⟩
  · unfold normalized
    simp only [notReached, if_false, ranFirst, ranSecond, ranThird]
  · have total := nearSecond.scaled nearThird
    have exponents : -(0 - 10 * (tens : Int) - 1 * (ones : Int)) =
        10 * (tens : Int) + 1 * (ones : Int) := by
      ring
    rw [exponents]
    exact total.mono (by linarith) (by omega)

/-- A number of an amount's size is brought between `10 ^ 17` and `10 ^ 19`, with few roundings. -/
theorem normalized_spec {value : Dyadic} (low : (10 : ℚ) ^ (-30 : Int) ≤ value.toRat)
    (high : value.toRat ≤ 10 ^ 30) :
    ∃ number exponent, normalized value = (number, exponent) ∧ (10 : ℚ) ^ 17 ≤ number.toRat ∧
      number.toRat < 10 ^ 19 ∧ Near 32 number.toRat (value.toRat * 10 ^ (-exponent)) := by
  rcases le_or_gt ((10 : ℚ) ^ 19) value.toRat with large | small
  · exact normalized_of_large large high
  · exact normalized_of_small small low

end Underwriting.Store
