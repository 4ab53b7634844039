import Underwriting.Proofs.Store.AmountNumeral

/-!
The text that the store makes of a real number, read as a decimal. Fifteen leading digits are shown,
so whatever is read has no more digits than that; and a number of fifteen digits is what is read of
any real number that stands for it.
-/

namespace Underwriting.Store

open Text

theorem five_le_iff {char : Char} (digit : char.isDigit = true) :
    '5' ≤ char ↔ 5 ≤ digitValue char := by
  have bounds := toNat_bounds_of_isDigit digit
  have order : '5' ≤ char ↔ 53 ≤ char.toNat := by
    rw [Char.le_def, UInt32.le_iff_toNat_le]
    rfl
  rw [order, digitValue]
  omega

theorem digit_bounds (number places : Nat) :
    let leading := number / 10 ^ places
    (leading : ℚ) / 10 ≤ number / 10 ^ (places + 1) ∧
      (number : ℚ) / 10 ^ (places + 1) < (leading + 1) / 10 := by
  intro leading
  have power : (0 : ℚ) < 10 ^ places := by positivity
  have low : (leading : ℚ) * 10 ^ places ≤ number := by
    exact_mod_cast Nat.div_mul_le_self number (10 ^ places)
  have high : (number : ℚ) < leading * 10 ^ places + 10 ^ places := by
    exact_mod_cast Nat.lt_div_mul_add (a := number) (Nat.pow_pos (n := places) (by decide : 0 < 10))
  rw [pow_succ]
  constructor
  · rw [div_le_div_iff₀ (by norm_num) (by positivity)]
    linarith
  · rw [div_lt_div_iff₀ (by positivity) (by norm_num)]
    linarith

def roundedDigits (number : Nat) : Nat :=
  if '5' ≤ (digitsOf number).getD shownDigits '0' then
    ofDigits ((digitsOf number).take shownDigits) + 1
  else ofDigits ((digitsOf number).take shownDigits)

def leading (number : Nat) (exponent : Int) : List Char × Int :=
  (digitsOf (roundedDigits number),
    if shownDigits < (digitsOf (roundedDigits number)).length then
      (digitsOf number).length + exponent + 1
    else (digitsOf number).length + exponent)

theorem abs_rounded_sub_le {number places : Nat}
    (split : (digitsOf number).length = shownDigits + (places + 1)) :
    |(roundedDigits number : ℚ) - number / 10 ^ (places + 1)| ≤ 1 / 2 := by
  have long : shownDigits < (digitsOf number).length := by omega
  have digits := areDigits_digitsOf number
  have digit : ((digitsOf number)[shownDigits]).isDigit = true := digits _ (List.getElem_mem long)
  have small := digitValue_lt digit
  have leading : number / 10 ^ places =
      ofDigits ((digitsOf number).take shownDigits) * 10 +
        digitValue (digitsOf number)[shownDigits] := by
    have further := ofDigits_take digits (shownDigits + 1)
    rw [List.take_succ_eq_append_getElem long, ofDigits_concat, ofDigits_digitsOf, split,
      show shownDigits + (places + 1) - (shownDigits + 1) = places by omega] at further
    exact further.symm
  obtain ⟨low, high⟩ := digit_bounds number places
  rw [leading] at low high
  have chosen : (digitsOf number).getD shownDigits '0' = (digitsOf number)[shownDigits] := by
    rw [List.getD_eq_getElem?_getD, List.getElem?_eq_getElem long, Option.getD_some]
  rw [roundedDigits, chosen]
  generalize ofDigits ((digitsOf number).take shownDigits) = kept at low high ⊢
  generalize (number : ℚ) / 10 ^ (places + 1) = exact at low high ⊢
  simp only [five_le_iff digit]
  generalize digitValue (digitsOf number)[shownDigits] = dropped at low high small ⊢
  push_cast at low high
  rw [abs_le]
  by_cases up : 5 ≤ dropped
  · have half : (5 : ℚ) ≤ dropped := by exact_mod_cast up
    have nine : (dropped : ℚ) ≤ 9 := by exact_mod_cast Nat.le_of_lt_succ small
    rw [if_pos up]
    push_cast
    constructor <;> linarith
  · have half : (dropped : ℚ) ≤ 4 := by exact_mod_cast Nat.le_of_lt_succ (not_le.mp up)
    have zero : (0 : ℚ) ≤ dropped := by positivity
    rw [if_neg up]
    constructor <;> linarith

theorem quotient_of_length {number places : Nat}
    (split : (digitsOf number).length = shownDigits + (places + 1)) :
    (10 : ℚ) ^ 14 ≤ number / 10 ^ (places + 1) ∧ (number : ℚ) / 10 ^ (places + 1) < 10 ^ 15 := by
  have shown : shownDigits = 15 := rfl
  have nonzero : 0 < number := by
    by_contra zero
    have one : (digitsOf number).length ≤ 1 := length_digitsOf_le (by decide) (by omega)
    omega
  have lowest : 10 ^ (14 + (places + 1)) ≤ number :=
    pow_le_of_length_digitsOf (by omega) nonzero
  have highest : number < 10 ^ (15 + (places + 1)) := by
    have below := lt_pow_length_digitsOf number
    rwa [split] at below
  constructor
  · rw [le_div_iff₀ (by positivity), ← pow_add]
    exact_mod_cast lowest
  · rw [div_lt_iff₀ (by positivity), ← pow_add]
    exact_mod_cast highest

theorem bounds_of_abs_sub_le {whole : Nat} {exact : ℚ} (rounded : |(whole : ℚ) - exact| ≤ 1 / 2)
    (low : (10 : ℚ) ^ 14 ≤ exact) (high : exact < 10 ^ 15) : 10 ^ 14 ≤ whole ∧ whole ≤ 10 ^ 15 := by
  obtain ⟨below, above⟩ := abs_le.mp rounded
  constructor
  · have : ((10 ^ 14 : Nat) : ℚ) < whole + 1 := by
      push_cast
      linarith
    have : 10 ^ 14 < whole + 1 := by exact_mod_cast this
    omega
  · have : (whole : ℚ) < ((10 ^ 15 : Nat) : ℚ) + 1 := by
      push_cast
      linarith
    have : whole < 10 ^ 15 + 1 := by exact_mod_cast this
    omega

theorem length_digitsOf_of_bounds {whole : Nat} (low : 10 ^ 14 ≤ whole) (high : whole ≤ 10 ^ 15) :
    (digitsOf whole).length = shownDigits ∨ (digitsOf whole).length = shownDigits + 1 := by
  rcases lt_or_eq_of_le high with below | same
  · exact Or.inl (length_digitsOf low below)
  · exact Or.inr (length_digitsOf same.ge (by rw [same]; norm_num [shownDigits]))

/-- What is shown of a number is a rounding of its first fifteen digits, in units of the last one. -/
structure Shows (value : Dyadic) (whole : Nat) (power : Int) (exact : ℚ) : Prop where
  digits : leadingDigits value = (digitsOf whole, (digitsOf whole).length + power)
  rounded : |(whole : ℚ) - exact| ≤ 1 / 2
  low : (10 : ℚ) ^ 14 ≤ exact
  high : exact < 10 ^ 15
  near : Near 217 exact (value.toRat * 10 ^ (-power))

theorem Shows.bounds {value : Dyadic} {whole : Nat} {power : Int} {exact : ℚ}
    (shows : Shows value whole power exact) : 10 ^ 14 ≤ whole ∧ whole ≤ 10 ^ 15 :=
  bounds_of_abs_sub_le shows.rounded shows.low shows.high

theorem near_floor {number : ℚ} (large : (10 : ℚ) ^ 17 ≤ number) :
    Near 185 (number.floor.toNat : ℚ) number ∧ 10 ^ 17 ≤ number.floor.toNat ∧
      (number.floor.toNat : ℚ) ≤ number := by
  have low := Rat.floor_le number
  have high := Rat.lt_floor_add_one number
  have reached : (10 ^ 17 : Int) ≤ number.floor := by
    rw [Rat.le_floor_iff]
    exact_mod_cast large
  have nonnegative : ((number.floor.toNat : Int) : ℚ) = number.floor := by
    rw [Int.toNat_of_nonneg (by omega)]
  have cast : (number.floor.toNat : ℚ) = number.floor := by
    rw [← nonnegative]
    push_cast
    rfl
  refine ⟨?_, by omega, ?_⟩
  · rw [cast]
    push_cast at high
    refine Near.of_abs_sub_le (1 / 10 ^ 17) (by linarith) ?_ (by norm_num) (by norm_num) (by norm_num)
    rw [abs_le]
    constructor <;> linarith
  · rw [cast]
    exact low

theorem leadingDigits_spec {value : Dyadic} (low : (10 : ℚ) ^ (-30 : Int) ≤ value.toRat)
    (high : value.toRat ≤ 10 ^ 30) : ∃ whole power exact, Shows value whole power exact := by
  obtain ⟨number, exponent, ran, above, below, near⟩ := normalized_spec low high
  obtain ⟨floorNear, floorLow, floorBelow⟩ := near_floor above
  have total := floorNear.trans near
  have floorHigh : number.toRat.floor.toNat < 10 ^ 19 := by
    have : (number.toRat.floor.toNat : ℚ) < 10 ^ 19 := lt_of_le_of_lt floorBelow below
    exact_mod_cast this
  have leads : leadingDigits value = leading number.toRat.floor.toNat exponent := by
    rw [leadingDigits, ran]
    rfl
  generalize number.toRat.floor.toNat = all at floorLow floorHigh total leads
  obtain ⟨places, split⟩ : ∃ places, (digitsOf all).length = shownDigits + (places + 1) := by
    have long := lt_length_digitsOf floorLow
    exact ⟨(digitsOf all).length - 16, by simp only [shownDigits]; omega⟩
  obtain ⟨exactLow, exactHigh⟩ := quotient_of_length split
  have scaled : Near 217 ((all : ℚ) / 10 ^ (places + 1))
      (value.toRat * 10 ^ (-(exponent + (places + 1 : Nat)))) := by
    have shifted := total.mul_right (zpow_nonneg (by norm_num : (0 : ℚ) ≤ 10) (-(places + 1 : Nat)))
    rw [mul_assoc, ← zpow_add₀ (by norm_num), ← neg_add, zpow_neg, zpow_natCast, ← div_eq_mul_inv]
      at shifted
    exact shifted
  refine ⟨roundedDigits all, exponent + (places + 1 : Nat), all / 10 ^ (places + 1), ?_,
    abs_rounded_sub_le split, exactLow, exactHigh, scaled⟩
  rw [leads, leading, split]
  have bounds := bounds_of_abs_sub_le (abs_rounded_sub_le split) exactLow exactHigh
  have shown : shownDigits = 15 := rfl
  simp only [Prod.mk.injEq, true_and]
  rcases length_digitsOf_of_bounds bounds.1 bounds.2 with fifteen | sixteen
  · rw [fifteen, if_neg (lt_irrefl _)]
    push_cast
    ring
  · rw [sixteen, if_pos (Nat.lt_succ_self _)]
    push_cast
    ring

/-- A number of fifteen digits is a whole number in units of the last digit that is shown of it. -/
theorem exists_whole_of_fitsDigits {number exact : ℚ} {power : Int} (fits : FitsDigits 15 number)
    (near : Near 2417 exact (number * 10 ^ (-power))) (low : (10 : ℚ) ^ 14 ≤ exact) :
    ∃ whole : Int, number * 10 ^ (-power) = whole := by
  obtain ⟨digits, exponent, small, rfl⟩ := fits
  rw [mul_assoc, ← zpow_add₀ (by norm_num)] at near ⊢
  rcases lt_or_ge (exponent + -power) 0 with lower | upper
  · -- With a digit behind that unit the number would be too small for fifteen digits in front.
    exfalso
    have few : |(digits : ℚ)| ≤ 10 ^ 15 - 1 := by
      have : |digits| ≤ 10 ^ 15 - 1 := by omega
      exact_mod_cast this
    have tenth : (10 : ℚ) ^ (exponent + -power) ≤ 10 ^ (-1 : Int) :=
      zpow_le_zpow_right₀ (by norm_num) (by omega)
    have positive : (0 : ℚ) < 10 ^ (exponent + -power) := zpow_pos (by norm_num) _
    have bounded : (digits : ℚ) * 10 ^ (exponent + -power) ≤ (10 ^ 15 - 1) * 10 ^ (-1 : Int) :=
      calc (digits : ℚ) * 10 ^ (exponent + -power) ≤ |(digits : ℚ)| * 10 ^ (exponent + -power) :=
            mul_le_mul_of_nonneg_right (le_abs_self _) positive.le
        _ ≤ (10 ^ 15 - 1) * 10 ^ (-1 : Int) := mul_le_mul few tenth positive.le (by norm_num)
    have reached := calc (10 : ℚ) ^ 14 ≤ exact := low
      _ ≤ digits * 10 ^ (exponent + -power) * growth ^ 2417 := near.above
      _ ≤ (10 ^ 15 - 1) * 10 ^ (-1 : Int) * growth ^ 2417 :=
          mul_le_mul_of_nonneg_right bounded (growth_pow_pos _).le
      _ ≤ (10 ^ 15 - 1) * 10 ^ (-1 : Int) * (1 + 3 / 10 ^ 16) :=
          mul_le_mul_of_nonneg_left (growth_pow_le (by norm_num)) (by norm_num)
    norm_num at reached
  · refine ⟨digits * 10 ^ (exponent + -power).toNat, ?_⟩
    push_cast
    rw [← zpow_natCast, Int.toNat_of_nonneg upper]

/-- A number of fifteen digits is the one that is shown of a real number near it. -/
theorem Shows.eq_of_fitsDigits {value : Dyadic} {whole : Nat} {power : Int} {exact number : ℚ}
    (shows : Shows value whole power exact) (near : Near 2200 value.toRat number)
    (fits : FitsDigits 15 number) : number = whole * 10 ^ power := by
  have close : Near 2417 exact (number * 10 ^ (-power)) :=
    shows.near.trans (near.mul_right (zpow_nonneg (by norm_num) _))
  obtain ⟨exactWhole, same⟩ := exists_whole_of_fitsDigits fits close shows.low
  rw [same] at close
  have positive : (0 : ℚ) < exact := lt_of_lt_of_le (by norm_num) shows.low
  have wholePositive : (0 : ℚ) < exactWhole := close.symm.pos positive
  have little := close.symm.abs_sub_le (by norm_num) wholePositive.le positive.le
  have equal : (whole : Int) = exactWhole := by
    have high := shows.high
    have apart : |((whole : Int) : ℚ) - exactWhole| < 1 :=
      calc |((whole : Int) : ℚ) - exactWhole| ≤ |((whole : Int) : ℚ) - exact| + |exact - exactWhole| :=
            abs_sub_le _ _ _
        _ ≤ 1 / 2 + exact * (4 / 10 ^ 16) := by
            rw [abs_sub_comm exact]
            exact add_le_add (by exact_mod_cast shows.rounded) little
        _ < 1 := by linarith
    have distance : |(whole : Int) - exactWhole| < 1 := by exact_mod_cast apart
    rw [Int.abs_lt_one_iff] at distance
    omega
  have count : (whole : ℚ) = number * 10 ^ (-power) := by
    rw [same, ← equal, Int.cast_natCast]
  rw [count, mul_assoc, ← zpow_add₀ (by norm_num), neg_add_cancel, zpow_zero, mul_one]

theorem withoutTrailingZeros_append (digits : List Char) :
    ∃ zeros, digits = withoutTrailingZeros digits ++ List.replicate zeros '0' := by
  refine ⟨(digits.reverse.takeWhile (· == '0')).length, ?_⟩
  have zeros : digits.reverse.takeWhile (· == '0') =
      List.replicate (digits.reverse.takeWhile (· == '0')).length '0' := by
    apply List.eq_replicate_of_mem
    intro char member
    simpa using List.mem_takeWhile_imp member
  have split := congrArg List.reverse
    (List.takeWhile_append_dropWhile (p := (· == '0')) (l := digits.reverse))
  rw [List.reverse_append, List.reverse_reverse] at split
  rw [withoutTrailingZeros, ← List.reverse_replicate, ← zeros]
  exact split.symm

structure Stripped (whole : Nat) (digits : List Char) (zeros : Nat) : Prop where
  areDigits : AreDigits digits
  given : digits ≠ []
  short : digits.length ≤ shownDigits
  length : (digitsOf whole).length = digits.length + zeros
  value : whole = ofDigits digits * 10 ^ zeros

theorem stripped_of_bounds {whole : Nat} (low : 10 ^ 14 ≤ whole) (high : whole ≤ 10 ^ 15) :
    ∃ zeros, Stripped whole (withoutTrailingZeros (digitsOf whole)) zeros := by
  obtain ⟨zeros, split⟩ := withoutTrailingZeros_append (digitsOf whole)
  have length := congrArg List.length split
  rw [List.length_append, List.length_replicate] at length
  have value := congrArg ofDigits split
  rw [ofDigits_digitsOf, ofDigits_append, List.length_replicate, ofDigits_replicate_zero,
    Nat.add_zero] at value
  refine ⟨zeros, ?_, ?_, ?_, length, value⟩
  · intro char member
    apply areDigits_digitsOf whole
    rw [split]
    exact List.mem_append_left _ member
  · intro none
    rw [none, ofDigits_nil] at value
    omega
  · rcases lt_or_eq_of_le high with below | same
    · have := length_digitsOf_le (by decide) below
      simp only [shownDigits]
      omega
    · rw [same]
      decide +kernel

/-- Digits around a point for given digits and the place of the point among them: zeros fill a gap on
either side of the point. -/
structure Pointed (digits : List Char) (point : Int) (whole fraction : List Char) (zeros : Nat) :
    Prop where
  chars : positionalChars digits point = whole ++ '.' :: fraction
  wholeDigits : AreDigits whole
  fractionDigits : AreDigits fraction
  given : whole ≠ []
  value : ofDigits (whole ++ fraction) = ofDigits digits * 10 ^ zeros
  place : (zeros : Int) - fraction.length = point - digits.length
  short : ((whole ++ fraction).length : Int) ≤ max (digits.length : Int) (point + 1) + max (1 - point) 0

theorem ofDigits_zero_cons (chars : List Char) : ofDigits ('0' :: chars) = ofDigits chars := by
  have zero : digitValue '0' = 0 := rfl
  rw [ofDigits_cons, zero, Nat.zero_mul, Nat.zero_add]

theorem fractionChars_of_ne_nil {digits : List Char} (given : digits ≠ []) :
    fractionChars digits = '.' :: digits := by
  simp [fractionChars, given]

theorem positionalChars_succ (digits : List Char) (front : Nat) :
    positionalChars digits (.ofNat (front + 1)) =
      (digits ++ List.replicate (front + 1 - digits.length) '0').take (front + 1) ++
        fractionChars (digits.drop (front + 1)) := rfl

theorem pointed_inside {digits : List Char} (areDigits : AreDigits digits) {front : Nat}
    (inside : front + 1 < digits.length) :
    Pointed digits (.ofNat (front + 1)) (digits.take (front + 1)) (digits.drop (front + 1)) 0 where
  chars := by
    have rest : digits.drop (front + 1) ≠ [] := by
      apply List.ne_nil_of_length_pos
      rw [List.length_drop]
      omega
    rw [positionalChars_succ, fractionChars_of_ne_nil rest, Nat.sub_eq_zero_of_le inside.le,
      List.replicate_zero, List.append_nil]
  wholeDigits _ member := areDigits _ (List.mem_of_mem_take member)
  fractionDigits _ member := areDigits _ (List.mem_of_mem_drop member)
  given := by
    apply List.ne_nil_of_length_pos
    rw [List.length_take]
    omega
  value := by rw [List.take_append_drop, Nat.pow_zero, Nat.mul_one]
  place := by
    rw [List.length_drop, Int.ofNat_eq_natCast]
    omega
  short := by
    rw [List.take_append_drop]
    omega

theorem pointed_behind {digits : List Char} (areDigits : AreDigits digits) (given : digits ≠ [])
    {front : Nat} (behind : digits.length ≤ front + 1) :
    Pointed digits (.ofNat (front + 1)) (digits ++ List.replicate (front + 1 - digits.length) '0')
      ['0'] (front + 1 - digits.length + 1) where
  chars := by
    rw [positionalChars_succ, List.drop_eq_nil_of_le behind, List.take_of_length_le]
    · rfl
    · rw [List.length_append, List.length_replicate]
      omega
  wholeDigits := areDigits_append areDigits (areDigits_replicate_zero _)
  fractionDigits := areDigits_replicate_zero 1
  given := by simp [given]
  value := by
    rw [List.append_assoc, ofDigits_append, ← List.replicate_succ', ofDigits_replicate_zero,
      List.length_replicate, Nat.add_zero]
  place := by
    rw [List.length_singleton, Int.ofNat_eq_natCast]
    omega
  short := by
    rw [List.append_assoc, List.length_append, ← List.replicate_succ', List.length_replicate,
      Int.ofNat_eq_natCast]
    omega

theorem pointed_in_front {digits : List Char} (areDigits : AreDigits digits) (given : digits ≠ [])
    (gap : Nat) : Pointed digits (-gap) ['0'] (List.replicate gap '0' ++ digits) 0 where
  chars := by
    cases gap with
    | zero =>
        change '0' :: fractionChars digits = _
        rw [fractionChars_of_ne_nil given]
        rfl
    | succ gap =>
        change '0' :: fractionChars (List.replicate (gap + 1) '0' ++ digits) = _
        rw [fractionChars_of_ne_nil (by simp [given])]
        rfl
  wholeDigits := areDigits_replicate_zero 1
  fractionDigits := areDigits_append (areDigits_replicate_zero _) areDigits
  given := List.cons_ne_nil _ _
  value := by
    rw [List.singleton_append, ofDigits_zero_cons, ofDigits_append, ofDigits_replicate_zero,
      Nat.zero_mul, Nat.zero_add, Nat.pow_zero, Nat.mul_one]
  place := by
    rw [List.length_append, List.length_replicate]
    omega
  short := by
    rw [List.length_append, List.length_append, List.length_replicate, List.length_singleton]
    omega

theorem exists_pointed {digits : List Char} (areDigits : AreDigits digits) (given : digits ≠ [])
    (point : Int) : ∃ whole fraction zeros, Pointed digits point whole fraction zeros := by
  rcases le_or_gt point 0 with front | back
  · obtain ⟨gap, rfl⟩ : ∃ gap : Nat, point = -gap := ⟨point.natAbs, by omega⟩
    exact ⟨_, _, _, pointed_in_front areDigits given gap⟩
  · obtain ⟨front, rfl⟩ : ∃ front : Nat, point = .ofNat (front + 1) :=
      ⟨point.toNat - 1, by rw [Int.ofNat_eq_natCast]; omega⟩
    rcases Nat.lt_or_ge (front + 1) digits.length with inside | behind
    · exact ⟨_, _, _, pointed_inside areDigits inside⟩
    · exact ⟨_, _, _, pointed_behind areDigits given behind⟩

def signedSize (negative : Bool) (digits : List Char) (point : Int) : ℚ :=
  if negative then -(ofDigits digits * 10 ^ (point - digits.length))
  else ofDigits digits * 10 ^ (point - digits.length)

theorem Pointed.value_eq {digits whole fraction : List Char} {point : Int} {zeros : Nat}
    (pointed : Pointed digits point whole fraction zeros) :
    (ofDigits (whole ++ fraction) : ℚ) / 10 ^ fraction.length =
      ofDigits digits * 10 ^ (point - digits.length) := by
  rw [pointed.value, ← pointed.place, zpow_sub₀ (by norm_num), Nat.cast_mul, mul_div_assoc]
  norm_cast

theorem exists_read_positionalChars (negative : Bool) {digits : List Char}
    (areDigits : AreDigits digits) (given : digits ≠ []) (point : Int) (count : Nat)
    (few : max (digits.length : Int) (point + 1) + max (1 - point) 0 ≤ count) (reach : count ≤ 28) :
    ∃ base : Decimal, base.mantissa < 10 ^ count ∧ base.value = signedSize negative digits point ∧
      Decimal.read (Decimal.signChars negative ++ positionalChars digits point) = .ok base ∧
      ∀ exponent moved,
        Decimal.read (Decimal.signChars negative ++ positionalChars digits point ++
            'e' :: Decimal.exponentChars exponent) = .ok moved ↔
          exponent.natAbs ≤ Decimal.maxScale ∧ base.movedBy exponent = .ok moved := by
  obtain ⟨whole, fraction, zeros, pointed⟩ := exists_pointed areDigits given point
  have short := pointed.short
  have below : ofDigits (whole ++ fraction) < 10 ^ count :=
    lt_of_lt_of_le (ofDigits_lt (areDigits_append pointed.wholeDigits pointed.fractionDigits))
      (Nat.pow_le_pow_right (by decide) (by omega))
  have fits : ofDigits (whole ++ fraction) < Decimal.mantissaBound :=
    lt_of_lt_of_le below (le_trans (Nat.pow_le_pow_right (by decide) reach)
      (by decide : 10 ^ 28 ≤ Decimal.mantissaBound))
  have places : fraction.length ≤ Decimal.maxScale := by
    rw [List.length_append] at short
    simp only [Decimal.maxScale]
    omega
  refine ⟨Decimal.unsignZero ⟨negative, _, _, fits, places⟩, below, ?_, ?_, ?_⟩
  · rw [Decimal.value_unsignZero, Decimal.value_eq, signedSize, ← pointed.value_eq]
  · rw [pointed.chars]
    exact Decimal.read_pointed negative pointed.wholeDigits pointed.fractionDigits pointed.given fits
      places
  · rw [pointed.chars]
    exact Decimal.read_exponentChars_eq_ok negative pointed.wholeDigits pointed.fractionDigits
      pointed.given fits places

def shownChars (digits : List Char) (point : Int) : List Char :=
  if point - 1 < -4 ∨ shownDigits ≤ point - 1 then scientificChars digits (point - 1)
  else positionalChars digits point

theorem realChars_of_ne_zero {value : Dyadic} (nonzero : value ≠ 0) :
    realChars (.finite value) = Decimal.signChars (decide (value < 0)) ++
      shownChars (withoutTrailingZeros (leadingDigits (absDyadic value)).1)
        (leadingDigits (absDyadic value)).2 := by
  simp only [realChars, if_neg nonzero, Decimal.signChars, decide_eq_true_eq]
  rfl

theorem scientificChars_eq {digits : List Char} (given : digits ≠ []) (exponent : Int) :
    scientificChars digits exponent =
      positionalChars digits 1 ++ 'e' :: Decimal.exponentChars exponent := by
  have some := List.length_pos_iff.mpr given
  have first : (digits ++ List.replicate (0 + 1 - digits.length) '0').take (0 + 1) = digits.take 1 := by
    rw [Nat.sub_eq_zero_of_le some, List.replicate_zero, List.append_nil]
  have front : positionalChars digits 1 = digits.take 1 ++ fractionChars (digits.drop 1) := by
    rw [← first]
    exact positionalChars_succ digits 0
  rw [front, scientificChars, Decimal.exponentChars]
  simp

theorem signedSize_mul_pow (negative : Bool) (digits : List Char) (point exponent : Int) :
    signedSize negative digits point * 10 ^ exponent =
      signedSize negative digits (point + exponent) := by
  have power : (10 : ℚ) ^ (point + exponent - digits.length) =
      10 ^ (point - digits.length) * 10 ^ exponent := by
    rw [← zpow_add₀ (by norm_num)]
    congr 1
    ring
  unfold signedSize
  rw [power]
  split <;> ring

theorem fitsDigits_signedSize (negative : Bool) {digits : List Char} (areDigits : AreDigits digits)
    {count : Nat} (short : digits.length ≤ count) (point : Int) :
    FitsDigits count (signedSize negative digits point) := by
  have bounded : ((ofDigits digits : Nat) : Int) < 10 ^ count := by
    exact_mod_cast lt_of_lt_of_le (ofDigits_lt areDigits) (Nat.pow_le_pow_right (by decide) short)
  unfold signedSize
  cases negative with
  | true =>
      refine ⟨-(ofDigits digits : Int), point - digits.length, by rwa [abs_neg, Nat.abs_cast], ?_⟩
      rw [if_pos rfl, Int.cast_neg, Int.cast_natCast, neg_mul]
  | false =>
      refine ⟨ofDigits digits, point - digits.length, by rwa [Nat.abs_cast], ?_⟩
      rw [if_neg Bool.false_ne_true, Int.cast_natCast]

/-- The text of at most fifteen digits is read as a number of at most fifteen digits; and it is read
as the number that it shows if an amount has that value. -/
theorem read_shownChars (negative : Bool) {digits : List Char} (areDigits : AreDigits digits)
    (given : digits ≠ []) (short : digits.length ≤ shownDigits) (point : Int) :
    (∀ number, Decimal.read (Decimal.signChars negative ++ shownChars digits point) = .ok number →
        FitsDigits 15 number.value) ∧
      ∀ amount : Decimal, amount.value = signedSize negative digits point →
        (point - 1).natAbs ≤ Decimal.maxScale →
        ∃ number, Decimal.read (Decimal.signChars negative ++ shownChars digits point) = .ok number ∧
          number.value = amount.value := by
  have fifteen : shownDigits = 15 := rfl
  rw [fifteen] at short
  unfold shownChars
  rw [fifteen]
  by_cases scientific : point - 1 < -4 ∨ ((15 : Nat) : Int) ≤ point - 1
  · obtain ⟨base, below, value, _, moves⟩ := exists_read_positionalChars negative areDigits given
      1 15 (by omega) (by omega)
    rw [if_pos scientific, scientificChars_eq given, ← List.append_assoc]
    constructor
    · intro number read
      exact Decimal.fitsDigits_movedBy below ((moves _ number).mp read).2
    · intro amount same within
      have reached : amount.value = base.value * 10 ^ (point - 1) := by
        rw [value, signedSize_mul_pow, same, add_sub_cancel]
      obtain ⟨number, moved, valueSame⟩ := Decimal.exists_movedBy within reached
      exact ⟨number, (moves _ number).mpr ⟨within, moved⟩, valueSame⟩
  · obtain ⟨base, _, value, read, _⟩ := exists_read_positionalChars negative areDigits given
      point 28 (by omega) (by omega)
    rw [if_neg scientific, read]
    constructor
    · rintro number ⟨⟩
      rw [value]
      exact fitsDigits_signedSize negative areDigits short point
    · intro amount same _
      exact ⟨base, rfl, value.trans same.symm⟩

theorem point_bounds {size : ℚ} {whole : Nat} {power : Int} (same : size = whole * 10 ^ power)
    (positive : 0 < whole) (low : (10 : ℚ) ^ (-28 : Int) ≤ size) (high : size < 2 ^ 96) :
    (((digitsOf whole).length : Int) + power - 1).natAbs ≤ 28 := by
  have some : 0 < (digitsOf whole).length := List.length_pos_iff.mpr (digitsOf_ne_nil whole)
  have power_pos : (0 : ℚ) < 10 ^ power := zpow_pos (by norm_num) _
  have upper : (10 : ℚ) ^ (((digitsOf whole).length : Int) - 1 + power) < 10 ^ (29 : Int) := by
    have least : ((10 ^ ((digitsOf whole).length - 1) : Nat) : ℚ) ≤ whole := by
      exact_mod_cast pow_le_of_length_digitsOf (by omega) positive
    calc (10 : ℚ) ^ (((digitsOf whole).length : Int) - 1 + power)
        = ((10 ^ ((digitsOf whole).length - 1) : Nat) : ℚ) * 10 ^ power := by
          rw [zpow_add₀ (by norm_num), Nat.cast_pow, ← zpow_natCast, Nat.cast_sub some]
          norm_num
      _ ≤ whole * 10 ^ power := mul_le_mul_of_nonneg_right least power_pos.le
      _ = size := same.symm
      _ < 2 ^ 96 := high
      _ < 10 ^ (29 : Int) := by norm_num
  have lower : (10 : ℚ) ^ (-28 : Int) < 10 ^ (((digitsOf whole).length : Int) + power) := by
    have most : (whole : ℚ) < ((10 ^ (digitsOf whole).length : Nat) : ℚ) := by
      exact_mod_cast lt_pow_length_digitsOf whole
    calc (10 : ℚ) ^ (-28 : Int) ≤ size := low
      _ = whole * 10 ^ power := same
      _ < ((10 ^ (digitsOf whole).length : Nat) : ℚ) * 10 ^ power :=
          mul_lt_mul_of_pos_right most power_pos
      _ = 10 ^ (((digitsOf whole).length : Int) + power) := by
          rw [zpow_add₀ (by norm_num), Nat.cast_pow, zpow_natCast, Nat.cast_ofNat]
  have := (zpow_lt_zpow_iff_right₀ (by norm_num)).mp upper
  have := (zpow_lt_zpow_iff_right₀ (by norm_num)).mp lower
  omega

theorem Stripped.eq_signedSize {whole zeros : Nat} {digits : List Char} {number : ℚ} {power : Int}
    (stripped : Stripped whole digits zeros) (size : |number| = whole * 10 ^ power) {negative : Bool}
    (sign : negative = true ↔ number < 0) :
    number = signedSize negative digits ((digitsOf whole).length + power) := by
  have shown : |number| =
      ofDigits digits * 10 ^ (((digitsOf whole).length : Int) + power - digits.length) := by
    rw [size, stripped.length, stripped.value, Nat.cast_mul, Nat.cast_pow, Nat.cast_ofNat, mul_assoc,
      ← zpow_natCast, ← zpow_add₀ (by norm_num)]
    congr 2
    push_cast
    ring
  rw [signedSize, ← shown]
  split
  · rename_i negative
    rw [abs_of_neg (sign.mp negative), neg_neg]
  · rename_i nonnegative
    exact (abs_of_nonneg (not_lt.mp (mt sign.mpr nonnegative))).symm

/-- Of zero the text is read as zero. -/
theorem read_realChars_zero :
    ∃ number, Decimal.read (realChars (.finite 0)) = .ok number ∧ number.value = 0 := by
  refine ⟨⟨false, 0, 1, by decide, by decide⟩, by decide +kernel, ?_⟩
  exact Decimal.value_eq_zero_iff.mpr rfl

theorem StandsFor.eq_zero {real : Dyadic} (stands : StandsFor real 0) : real = 0 := by
  have above := stands.near.above
  rw [abs_zero, zero_mul] at above
  rw [← Dyadic.toRat_inj, Dyadic.toRat_zero]
  exact abs_eq_zero.mp (le_antisymm above (abs_nonneg _))

theorem StandsFor.exists_shows {amount : Decimal} {real : Dyadic} (nonzero : amount.value ≠ 0)
    (stands : StandsFor real amount.value) :
    real ≠ 0 ∧ Near 2200 (absDyadic real).toRat |amount.value| ∧
      ∃ whole power exact, Shows (absDyadic real) whole power exact := by
  have positive : 0 < |amount.value| := abs_pos.mpr nonzero
  have near := stands.near
  rw [← toRat_absDyadic] at near
  have realPositive := near.pos positive
  have apart : real ≠ 0 := by
    rintro rfl
    simp at realPositive
  have low : (10 : ℚ) ^ (-30 : Int) ≤ (absDyadic real).toRat := by
    have half := near.le_two_mul (by norm_num) realPositive.le
    have least := Decimal.le_abs_value nonzero
    norm_num at half least ⊢
    linarith
  have high : (absDyadic real).toRat ≤ 10 ^ 30 := by
    have double := near.symm.le_two_mul (by norm_num) positive.le
    have most := amount.abs_value_lt
    norm_num at double most ⊢
    linarith
  exact ⟨apart, near, leadingDigits_spec low high⟩

/-- Of a real number that stands for an amount, the text is read as the amount's value exactly if that
has at most fifteen digits. -/
theorem exists_read_realChars_iff {amount : Decimal} {real : Dyadic}
    (stands : StandsFor real amount.value) :
    (∃ number, Decimal.read (realChars (.finite real)) = .ok number ∧ number.value = amount.value) ↔
      FitsDigits 15 amount.value := by
  by_cases zero : amount.value = 0
  · rw [zero] at stands ⊢
    rw [stands.eq_zero]
    exact ⟨fun _ => ⟨0, 0, by norm_num, by norm_num⟩, fun _ => read_realChars_zero⟩
  · obtain ⟨nonzero, near, whole, power, exact, shows⟩ := stands.exists_shows zero
    have bounds := shows.bounds
    obtain ⟨zeros, stripped⟩ := stripped_of_bounds bounds.1 bounds.2
    obtain ⟨fits, reads⟩ := read_shownChars (decide (real < 0)) stripped.areDigits stripped.given
      stripped.short ((digitsOf whole).length + power)
    rw [realChars_of_ne_zero nonzero, shows.digits]
    constructor
    · rintro ⟨number, read, same⟩
      rw [← same]
      exact fits number read
    · intro fifteen
      have size := shows.eq_of_fitsDigits near (fitsDigits_abs fifteen)
      have sign : decide (real < 0) = true ↔ amount.value < 0 := by
        rw [decide_eq_true_eq, ← Dyadic.toRat_lt_toRat_iff, Dyadic.toRat_zero]
        exact stands.sign
      have small := point_bounds size (by omega) (Decimal.le_abs_value zero) amount.abs_value_lt
      exact reads amount (stripped.eq_signedSize size sign) small

end Underwriting.Store
