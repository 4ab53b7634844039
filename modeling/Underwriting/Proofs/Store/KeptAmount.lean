import Underwriting.Proofs.Store.AmountColumn

/-!
What a column keeps of an amount. A column of texts keeps the text. A column that leans to numbers keeps
a whole number of 64 bits or a real number, and a reader sees the digits of that; so the value survives
as an exact whole number or in fifteen digits.
-/

namespace Underwriting.Store

open Text Binary64

def Value.ShowsAmount (value : Value) (amount : Decimal) : Prop :=
  ∃ content kept, value.castText? = some content ∧ Decimal.ofText content = .ok kept ∧
    kept.value = amount.value

theorem showsAmount_text (amount : Decimal) : (Value.text amount.toText).ShowsAmount amount :=
  ⟨amount.toText, amount.unsignZero, rfl, Decimal.ofText_toText amount,
    Decimal.value_unsignZero amount⟩

theorem integerChars_eq (number : Int) :
    integerChars number = Decimal.signChars (decide (number < 0)) ++ digitsOf number.natAbs := by
  cases number with
  | ofNat number => rfl
  | negSucc number =>
      rw [decide_eq_true (Int.negSucc_lt_zero number)]
      rfl

theorem exists_read_integerText {number : Int} (fits : FitsInt64 number) :
    ∃ kept, Decimal.ofText (integerText number) = .ok kept ∧ kept.value = number := by
  have bounded : ofDigits (digitsOf number.natAbs) < Decimal.mantissaBound := by
    obtain ⟨low, high⟩ := fitsInt64_iff.mp fits
    have small : number.natAbs < 10 ^ 28 := by omega
    rw [ofDigits_digitsOf]
    exact lt_trans small (by decide)
  have plain := Decimal.readPlain_whole (decide (number < 0)) (areDigits_digitsOf number.natAbs)
    (digitsOf_ne_nil _) bounded
  refine ⟨Decimal.unsignZero ⟨decide (number < 0), _, 0, bounded, Nat.zero_le _⟩, ?_, ?_⟩
  · rw [Decimal.ofText, integerText, String.toList_ofList, integerChars_eq, Decimal.read, plain]
  · rw [Decimal.value_unsignZero, Decimal.value, pow_zero, div_one, Int.cast_inj]
    simp only [Decimal.signedMantissa, ofDigits_digitsOf, decide_eq_true_eq]
    split <;> omega

theorem fitsInt64_toInt (number : Int64) : FitsInt64 number.toInt :=
  ⟨Int64.minValue_le_toInt number, Int64.toInt_le number⟩

theorem showsAmount_integer_iff {number : Int64} {amount : Decimal} :
    (Value.integer number).ShowsAmount amount ↔ amount.value = number.toInt := by
  obtain ⟨kept, read, value⟩ := exists_read_integerText (fitsInt64_toInt number)
  constructor
  · rintro ⟨content, other, shown, otherRead, same⟩
    cases shown
    rw [read, Except.ok.injEq] at otherRead
    rw [← same, ← otherRead, value]
  · intro same
    exact ⟨_, kept, rfl, read, value.trans same.symm⟩

theorem showsAmount_real_iff {real : Dyadic} {amount : Decimal}
    (stands : StandsFor real amount.value) :
    (Value.real (.finite real)).ShowsAmount amount ↔ FitsDigits 15 amount.value := by
  rw [← exists_read_realChars_iff stands]
  have text : Decimal.ofText (realText (.finite real)) = Decimal.read (realChars (.finite real)) := by
    rw [Decimal.ofText, realText, String.toList_ofList]
  constructor
  · rintro ⟨content, kept, shown, read, same⟩
    cases shown
    exact ⟨kept, text.symm.trans read, same⟩
  · rintro ⟨kept, read, same⟩
    exact ⟨_, kept, rfl, text.trans read, same⟩

/-! ### Whole numbers and fifteen digits -/

theorem dvd_of_fitsDigits {number : Int} (fits : FitsDigits 15 number)
    (large : 10 ^ 18 ≤ number.natAbs) : 10000 ∣ number := by
  obtain ⟨digits, exponent, small, same⟩ := fits
  have size : ((10 : ℚ) ^ 18) ≤ |(digits : ℚ)| * 10 ^ exponent := by
    have cast : ((10 ^ 18 : Nat) : ℚ) ≤ |(number : ℚ)| := by
      rw [← Int.cast_abs, ← Nat.cast_natAbs]
      exact_mod_cast large
    rw [same, abs_mul, abs_of_pos (zpow_pos (by norm_num : (0 : ℚ) < 10) exponent)] at cast
    exact_mod_cast cast
  have few : |(digits : ℚ)| < 10 ^ 15 := by exact_mod_cast small
  have places : (3 : Int) < exponent := by
    by_contra less
    have power : (10 : ℚ) ^ exponent ≤ 10 ^ (3 : Int) :=
      zpow_le_zpow_right₀ (by norm_num) (not_lt.mp less)
    have below := calc (10 : ℚ) ^ 18 ≤ |(digits : ℚ)| * 10 ^ exponent := size
      _ ≤ |(digits : ℚ)| * 10 ^ (3 : Int) := mul_le_mul_of_nonneg_left power (abs_nonneg _)
      _ < 10 ^ 15 * 10 ^ (3 : Int) := mul_lt_mul_of_pos_right few (by norm_num)
    norm_num at below
  obtain ⟨further, rfl⟩ := Int.le.dest (show (4 : Int) ≤ exponent by omega)
  refine ⟨digits * 10 ^ further, ?_⟩
  rw [zpow_add₀ (by norm_num), zpow_natCast] at same
  have cast : (number : ℚ) = ((10000 * (digits * 10 ^ further) : Int) : ℚ) := by
    rw [same]
    push_cast
    ring
  exact_mod_cast cast

def InsideInt64 (number : Int) : Prop :=
  Int64.minValue.toInt < number ∧ number < Int64.maxValue.toInt

theorem insideInt64_iff {number : Int} :
    InsideInt64 number ↔ -9223372036854775808 < number ∧ number < 9223372036854775807 := Iff.rfl

theorem InsideInt64.fits {number : Int} (inside : InsideInt64 number) : FitsInt64 number :=
  ⟨inside.1.le, inside.2.le⟩

section Whole

variable {real : Dyadic} {number : ℚ} {whole : Int}

theorem StandsFor.abs_sub_le (stands : StandsFor real number) (same : real.toRat = whole) :
    |(whole.natAbs : ℚ) - (|number|)| ≤ |number| * (4 / 10 ^ 16) := by
  have close := stands.near.abs_sub_le (by norm_num) (abs_nonneg _) (abs_nonneg _)
  rwa [same, ← Int.cast_abs, ← Nat.cast_natAbs] at close

theorem eq_of_fraction {digits exponent : Int} (small : |digits| < 10 ^ 15) (fraction : exponent < 0)
    (close : |(whole.natAbs : ℚ) - (|digits * (10 : ℚ) ^ exponent|)| ≤
      |digits * (10 : ℚ) ^ exponent| * (4 / 10 ^ 16)) :
    |digits * (10 : ℚ) ^ exponent| = (whole.natAbs : ℚ) := by
  have unit : (0 : ℚ) < 10 ^ exponent := zpow_pos (by norm_num) exponent
  have few : |(digits : ℚ)| < 10 ^ 15 := by exact_mod_cast small
  obtain ⟨places, rfl⟩ : ∃ places : Nat, exponent = -places := ⟨exponent.natAbs, by omega⟩
  have scaled : ((whole.natAbs : Nat) : ℚ) =
      ((whole.natAbs * 10 ^ places : Nat) : ℚ) * 10 ^ (-(places : Int)) := by
    rw [zpow_neg, zpow_natCast, Nat.cast_mul, Nat.cast_pow, Nat.cast_ofNat, mul_assoc,
      mul_inv_cancel₀ (by positivity), mul_one]
  have size : |digits * (10 : ℚ) ^ (-(places : Int))| =
      ((digits.natAbs : Nat) : ℚ) * 10 ^ (-(places : Int)) := by
    rw [abs_mul, abs_of_pos unit, ← Int.cast_abs, ← Nat.cast_natAbs]
  rw [size, scaled] at close ⊢
  rw [← sub_mul, abs_mul, abs_of_pos unit, mul_right_comm] at close
  have within := le_of_mul_le_mul_right close unit
  have count : ((whole.natAbs * 10 ^ places : Nat) : Int) = (digits.natAbs : Nat) := by
    have apart : |(((whole.natAbs * 10 ^ places : Nat) : Int) : ℚ) - ((digits.natAbs : Nat) : Int)| <
        1 := by
      rw [Int.cast_natCast, Int.cast_natCast]
      refine lt_of_le_of_lt within ?_
      rw [Nat.cast_natAbs, Int.cast_abs]
      linarith
    have distance : |((whole.natAbs * 10 ^ places : Nat) : Int) - (digits.natAbs : Nat)| < 1 := by
      exact_mod_cast apart
    rw [Int.abs_lt_one_iff] at distance
    omega
  congr 1
  exact_mod_cast count.symm

/-- A number that is read as a whole one between the extremes, without being one, has more digits. -/
theorem not_fitsDigits_of_inside (stands : StandsFor real number) (same : real.toRat = whole)
    (inside : InsideInt64 whole) (apart : ∀ exact : Int, number = exact → ¬FitsInt64 exact) :
    ¬FitsDigits 15 number := by
  obtain ⟨low, high⟩ := insideInt64_iff.mp inside
  have close := stands.abs_sub_le same
  rintro ⟨digits, exponent, small, value⟩
  rcases lt_or_ge exponent 0 with fraction | raised
  · rw [value] at close
    rcases eq_or_eq_neg_of_abs_eq (eq_of_fraction small fraction close) with equal | opposite
    · refine apart whole.natAbs ?_ (fitsInt64_iff.mpr (by omega))
      rw [value, equal, Int.cast_natCast]
    · refine apart (-(whole.natAbs : Int)) ?_ (fitsInt64_iff.mpr (by omega))
      rw [value, opposite, Int.cast_neg, Int.cast_natCast]
  · -- A whole number of fifteen digits beyond the extremes ends in zeros, so it is not near them.
    obtain ⟨places, rfl⟩ := Int.le.dest raised
    have exact : number = ((digits * 10 ^ places : Int) : ℚ) := by
      rw [value, zero_add, zpow_natCast]
      push_cast
      rfl
    have beyond := apart _ exact
    have fits : FitsDigits 15 ((digits * 10 ^ places : Int) : ℚ) :=
      ⟨digits, 0 + places, small, exact.symm.trans value⟩
    rw [exact, ← Int.cast_abs, ← Nat.cast_natAbs] at close
    generalize digits * 10 ^ places = large at beyond fits close
    rw [fitsInt64_iff] at beyond
    have zeros := dvd_of_fitsDigits fits (by omega)
    have far : (9223372036854780000 : ℚ) ≤ (large.natAbs : Nat) := by
      have : 9223372036854780000 ≤ large.natAbs := by omega
      exact_mod_cast this
    have near : ((whole.natAbs : Nat) : ℚ) ≤ 9223372036854775807 := by
      have : whole.natAbs ≤ 9223372036854775807 := by omega
      exact_mod_cast this
    have below := (abs_le.mp close).1
    linarith

theorem not_fitsBits_maxValue :
    ¬FitsBits significantBits leastExponent ((9223372036854775807 : Int) : ℚ) := by
  intro fits
  have rounded : nearestDyadic significantBits leastExponent ((9223372036854775807 : Int) : ℚ) =
      .ofInt 9223372036854775808 := by decide +kernel
  have same := nearestDyadic_of_fitsBits fits
  rw [rounded, toRat_ofInt] at same
  norm_num at same

/-- A whole number of 64 bits that is read as one at the extremes has more digits than fifteen, and is
no double but for the least one. -/
theorem not_kept_of_outside {exact : Int} (stands : StandsFor real exact)
    (same : real.toRat = whole) (outside : ¬InsideInt64 whole) (fits : FitsInt64 exact) :
    ¬FitsDigits 15 exact ∧ (real.toRat = exact → exact = Int64.minValue.toInt ∨
      exact = Int64.maxValue.toInt) := by
  rw [insideInt64_iff] at outside
  obtain ⟨low, high⟩ := fitsInt64_iff.mp fits
  constructor
  · intro digits
    have close := stands.abs_sub_le same
    rw [← Int.cast_abs, ← Nat.cast_natAbs] at close
    have far : (9223372036854775807 : ℚ) ≤ (whole.natAbs : Nat) := by
      have : 9223372036854775807 ≤ whole.natAbs := by omega
      exact_mod_cast this
    have most : ((exact.natAbs : Nat) : ℚ) ≤ 9223372036854775808 := by
      have : exact.natAbs ≤ 9223372036854775808 := by omega
      exact_mod_cast this
    have above : ((9223372036854772000 : Nat) : ℚ) < (exact.natAbs : Nat) := by
      have := (abs_le.mp close).2
      push_cast
      linarith
    have least : 9223372036854772000 < exact.natAbs := by exact_mod_cast above
    have zeros := dvd_of_fitsDigits digits (by omega)
    omega
  · intro equal
    rw [same, Int.cast_inj] at equal
    subst equal
    change whole = -9223372036854775808 ∨ whole = 9223372036854775807
    omega

end Whole

/-! ### Columns -/

theorem preferInteger_of_inside {real : Dyadic} {whole : Int} (same : real.toRat = whole)
    (inside : InsideInt64 whole) :
    (Value.real (.finite real)).preferInteger = .integer (Int64.ofInt whole) := by
  simp only [Value.preferInteger, Binary64.toInt?, same, Rat.den_intCast, Rat.num_intCast, if_true]
  exact if_pos inside

theorem preferInteger_of_outside {real : Dyadic}
    (outside : ∀ whole : Int, real.toRat = whole → ¬InsideInt64 whole) :
    (Value.real (.finite real)).preferInteger = .real (.finite real) := by
  by_cases whole : real.toRat.den = 1
  · have apart := outside real.toRat.num ((Rat.den_eq_one_iff _).mp whole).symm
    simp only [Value.preferInteger, Binary64.toInt?, whole, if_true]
    exact if_neg apart
  · simp [Value.preferInteger, Binary64.toInt?, whole]

/-- What a column of numbers keeps of an amount: a whole number of 64 bits that is written without
places or is a double, and of all other numbers those of fifteen digits. The least number of 64 bits
is kept without places only. -/
def KeptAsNumber (amount : Decimal) : Prop :=
  (∃ number : Int, amount.value = number ∧ FitsInt64 number ∧
      (amount.scale = 0 ∨
        FitsBits significantBits leastExponent number ∧ number ≠ Int64.minValue.toInt)) ∨
    (∀ number : Int, amount.value = number → ¬FitsInt64 number) ∧ FitsDigits 15 amount.value

theorem keptAsNumber_of_int64 {amount : Decimal} {number : Int} (same : amount.value = number)
    (fits : FitsInt64 number) :
    KeptAsNumber amount ↔ amount.scale = 0 ∨
      FitsBits significantBits leastExponent number ∧ number ≠ Int64.minValue.toInt := by
  constructor
  · rintro (⟨other, otherSame, _, kept⟩ | ⟨apart, _⟩)
    · have equal : other = number := by
        rw [← Int.cast_inj (α := ℚ), ← otherSame, same]
      exact equal ▸ kept
    · exact absurd fits (apart number same)
  · intro kept
    exact Or.inl ⟨number, same, fits, kept⟩

theorem toNumeric_of_plain {amount : Decimal}
    (plain : amount.scale = 0 ∧ FitsInt64 amount.signedMantissa) :
    (Value.text amount.toText).toNumeric = .integer (Int64.ofInt amount.signedMantissa) := by
  rw [Value.toNumeric, ofNumericText_toText, if_pos plain]
  rfl

theorem toNumeric_of_pointed {amount : Decimal} {real : Dyadic}
    (read : realOf (amountLiteral amount) = .finite real)
    (pointed : ¬(amount.scale = 0 ∧ FitsInt64 amount.signedMantissa)) :
    (Value.text amount.toText).toNumeric = (Value.real (.finite real)).preferInteger := by
  rw [Value.toNumeric, ofNumericText_toText, if_neg pointed, read]

theorem showsAmount_toNumeric_of_int64 {amount : Decimal} {number : Int}
    (same : amount.value = number) (fits : FitsInt64 number) (pointed : amount.scale ≠ 0) :
    (Value.text amount.toText).toNumeric.ShowsAmount amount ↔
      FitsBits significantBits leastExponent number ∧ number ≠ Int64.minValue.toInt := by
  obtain ⟨real, read, stands⟩ := realOf_standsFor amount
  have nearest := (realOf_of_int64 fits same).symm.trans read
  have double : real.toRat = number ↔ FitsBits significantBits leastExponent number := by
    rw [← ofRat_eq_pointOf_iff fits, nearest, Value.pointOf, fits.toInt_ofInt, finite.injEq,
      ← Dyadic.toRat_inj, toRat_ofInt]
  obtain ⟨whole, rounded⟩ : ∃ whole : Int, real.toRat = whole := by
    rw [fits.ofRat_eq, finite.injEq] at nearest
    rw [← nearest]
    exact nearestDyadic_intCast _ _ _
  rw [toNumeric_of_pointed read (fun plain => pointed plain.1)]
  by_cases inside : InsideInt64 whole
  · rw [preferInteger_of_inside rounded inside, showsAmount_integer_iff, inside.fits.toInt_ofInt,
      same, ← double, rounded]
    refine ⟨fun equal => ⟨equal.symm, ?_⟩, fun both => both.1.symm⟩
    rw [Int.cast_inj.mp equal]
    exact inside.1.ne'
  · have outside : ∀ other : Int, real.toRat = other → ¬InsideInt64 other := by
      intro other otherRounded
      rwa [← Int.cast_inj.mp (rounded.symm.trans otherRounded)]
    rw [preferInteger_of_outside outside, showsAmount_real_iff stands, same]
    rw [same] at stands
    obtain ⟨digits, extreme⟩ := not_kept_of_outside stands rounded inside fits
    refine iff_of_false digits ?_
    rintro ⟨bits, notLeast⟩
    rcases extreme (double.mpr bits) with least | most
    · exact notLeast least
    · rw [most] at bits
      exact not_fitsBits_maxValue bits

theorem showsAmount_toNumeric_iff (amount : Decimal) :
    (Value.text amount.toText).toNumeric.ShowsAmount amount ↔ KeptAsNumber amount := by
  by_cases plain : amount.scale = 0 ∧ FitsInt64 amount.signedMantissa
  · -- Without places the number is kept as it is.
    have value := value_of_scale_zero plain.1
    rw [toNumeric_of_plain plain, showsAmount_integer_iff, plain.2.toInt_ofInt, keptAsNumber_of_int64 value plain.2]
    exact iff_of_true value (Or.inl plain.1)
  · by_cases int64 : ∃ number : Int, amount.value = number ∧ FitsInt64 number
    · obtain ⟨number, same, fits⟩ := int64
      have pointed : amount.scale ≠ 0 := by
        intro whole
        have equal := Int.cast_inj.mp (same.symm.trans (value_of_scale_zero whole))
        exact plain ⟨whole, equal ▸ fits⟩
      rw [showsAmount_toNumeric_of_int64 same fits pointed, keptAsNumber_of_int64 same fits]
      simp [pointed]
    · have apart : ∀ number : Int, amount.value = number → ¬FitsInt64 number :=
        fun number same fits => int64 ⟨number, same, fits⟩
      have kept : KeptAsNumber amount ↔ FitsDigits 15 amount.value := by
        refine ⟨?_, fun digits => Or.inr ⟨apart, digits⟩⟩
        rintro (⟨number, same, fits, _⟩ | ⟨_, digits⟩)
        · exact absurd fits (apart number same)
        · exact digits
      obtain ⟨real, read, stands⟩ := realOf_standsFor amount
      rw [toNumeric_of_pointed read plain, kept]
      by_cases whole : ∃ whole : Int, real.toRat = whole ∧ InsideInt64 whole
      · obtain ⟨whole, rounded, inside⟩ := whole
        rw [preferInteger_of_inside rounded inside, showsAmount_integer_iff, inside.fits.toInt_ofInt]
        exact iff_of_false (fun same => apart whole same inside.fits)
          (not_fitsDigits_of_inside stands rounded inside apart)
      · have outside : ∀ other : Int, real.toRat = other → ¬InsideInt64 other :=
          fun other rounded inside => whole ⟨other, rounded, inside⟩
        rw [preferInteger_of_outside outside, showsAmount_real_iff stands]

theorem fitsBits_of_ofRat {number : ℚ} {real : Dyadic} (same : Binary64.ofRat number = .finite real) :
    FitsBits significantBits leastExponent real.toRat := by
  unfold Binary64.ofRat at same
  dsimp only at same
  split at same
  · cases same
    exact fitsBits_nearestDyadic (by decide) leastExponent number
  · cases same

theorem fitsBits_of_realOf {literal : Literal} {real : Dyadic}
    (read : realOf literal = .finite real) : FitsBits significantBits leastExponent real.toRat := by
  rw [realOf_eq] at read
  split at read
  · cases read
    exact ⟨0, leastExponent, by norm_num, le_refl _, by simp⟩
  · exact fitsBits_of_ofRat read

theorem ofInt_of_fitsBits {real : Dyadic} {whole : Int} (same : real.toRat = whole)
    (fits : FitsInt64 whole) (bits : FitsBits significantBits leastExponent real.toRat) :
    Binary64.ofInt whole = .finite real := by
  rw [same] at bits
  have point := (ofRat_eq_pointOf_iff fits).mpr bits
  rw [Binary64.ofInt, point, Value.pointOf, fits.toInt_ofInt, finite.injEq, ← Dyadic.toRat_inj,
    toRat_ofInt, same]

theorem toNumeric_toReal (amount : Decimal) :
    (Value.text amount.toText).toNumeric.toReal = .real (realOf (amountLiteral amount)) := by
  by_cases plain : amount.scale = 0 ∧ FitsInt64 amount.signedMantissa
  · rw [toNumeric_of_plain plain, realOf_of_int64 plain.2 (value_of_scale_zero plain.1), Value.toReal,
      plain.2.toInt_ofInt, Binary64.ofInt]
  · obtain ⟨real, read, _⟩ := realOf_standsFor amount
    rw [toNumeric_of_pointed read plain, read]
    by_cases whole : ∃ whole : Int, real.toRat = whole ∧ InsideInt64 whole
    · obtain ⟨whole, rounded, inside⟩ := whole
      rw [preferInteger_of_inside rounded inside, Value.toReal, inside.fits.toInt_ofInt,
        ofInt_of_fitsBits rounded inside.fits (fitsBits_of_realOf read)]
    · have outside : ∀ other : Int, real.toRat = other → ¬InsideInt64 other :=
        fun other rounded inside => whole ⟨other, rounded, inside⟩
      rw [preferInteger_of_outside outside]
      rfl

def Affinity.Keeps (amount : Decimal) : Affinity → Prop
  | .text => True
  | .untyped => True
  | .real => FitsDigits 15 amount.value
  | .numeric => KeptAsNumber amount
  | .integer => KeptAsNumber amount

theorem showsAmount_stored_iff (affinity : Affinity) (amount : Decimal) :
    ((Value.text amount.toText).stored affinity).ShowsAmount amount ↔ affinity.Keeps amount := by
  cases affinity with
  | text => exact iff_of_true (showsAmount_text amount) trivial
  | untyped => exact iff_of_true (showsAmount_text amount) trivial
  | numeric => exact showsAmount_toNumeric_iff amount
  | integer => exact showsAmount_toNumeric_iff amount
  | real =>
      obtain ⟨real, read, stands⟩ := realOf_standsFor amount
      rw [Value.stored, toNumeric_toReal, read]
      exact showsAmount_real_iff stands

/-- Every column keeps the value of an amount that is written in fifteen digits. -/
theorem Affinity.keeps_of_mantissa_lt {amount : Decimal} (short : amount.mantissa < 10 ^ 15)
    (affinity : Affinity) : affinity.Keeps amount := by
  have digits : FitsDigits 15 amount.value := Decimal.fitsDigits_value short
  have number : KeptAsNumber amount := by
    by_cases int64 : ∃ number : Int, amount.value = number ∧ FitsInt64 number
    · obtain ⟨number, same, fits⟩ := int64
      have size : |(number : ℚ)| < 10 ^ 15 := by
        rw [← same, Decimal.abs_value]
        calc (amount.mantissa : ℚ) / 10 ^ amount.scale ≤ amount.mantissa :=
              div_le_self (by positivity) (one_le_pow₀ (by norm_num))
          _ < 10 ^ 15 := by exact_mod_cast short
      have small : |number| < 10 ^ 15 := by exact_mod_cast size
      refine (keptAsNumber_of_int64 same fits).mpr (Or.inr ⟨⟨number, 0, ?_, by decide, by simp⟩, ?_⟩)
      · exact lt_trans small (by norm_num [significantBits])
      · rintro rfl
        exact absurd small (by decide)
    · exact Or.inr ⟨fun number same fits => int64 ⟨number, same, fits⟩, digits⟩
  cases affinity with
  | text => trivial
  | untyped => trivial
  | real => exact digits
  | numeric => exact number
  | integer => exact number

end Underwriting.Store
