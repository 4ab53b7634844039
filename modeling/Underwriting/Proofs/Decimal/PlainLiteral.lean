import Underwriting.Proofs.Decimal.Alphabet

/-!
Plain literals: an optional sign, digits, and digits behind an optional point. One whose digits all
fit is read as exactly the number that it stands for, at the scale of its places.
-/

namespace Underwriting.Decimal

open Text

inductive Sign
  | absent
  | plus
  | minus
deriving DecidableEq

def Sign.chars : Sign → List Char
  | .absent => []
  | .plus => ['+']
  | .minus => ['-']

structure PlainLiteral where
  sign : Sign
  whole : List Char
  places : Option (List Char)
  wholeDigits : AreDigits whole
  placesDigits : AreDigits (places.getD [])
  given : whole ++ places.getD [] ≠ []

namespace PlainLiteral

def fraction (literal : PlainLiteral) : List Char := literal.places.getD []

def digits (literal : PlainLiteral) : List Char := literal.whole ++ literal.fraction

def body (literal : PlainLiteral) : List Char :=
  match literal.places with
  | none => literal.whole
  | some places => literal.whole ++ '.' :: places

def toChars (literal : PlainLiteral) : List Char := literal.sign.chars ++ literal.body

def value (literal : PlainLiteral) : ℚ :=
  (if literal.sign = .minus then -1 else 1) * ofDigits literal.digits / 10 ^ literal.fraction.length

structure Fits (literal : PlainLiteral) : Prop where
  digits_lt : ofDigits literal.digits < mantissaBound
  places_le : literal.fraction.length ≤ maxScale

def toDecimal (literal : PlainLiteral) (fits : literal.Fits) : Decimal :=
  unsignZero ⟨decide (literal.sign = .minus), ofDigits literal.digits, literal.fraction.length,
    fits.digits_lt, fits.places_le⟩

theorem value_toDecimal (literal : PlainLiteral) (fits : literal.Fits) :
    (literal.toDecimal fits).value = literal.value := by
  rw [toDecimal, value_unsignZero, value_eq, value]
  by_cases minus : literal.sign = .minus
  · simp [minus, neg_div]
  · simp [minus]

theorem mem_body {literal : PlainLiteral} {char : Char} (member : char ∈ literal.body) :
    char.isDigit = true ∨ char = '.' := by
  unfold body at member
  have placesDigits := literal.placesDigits
  split at member
  · exact Or.inl (literal.wholeDigits char member)
  · rename_i places given
    rw [given] at placesDigits
    rcases List.mem_append.mp member with inWhole | behind
    · exact Or.inl (literal.wholeDigits char inWhole)
    · rcases List.mem_cons.mp behind with point | inPlaces
      · exact Or.inr point
      · exact Or.inl (placesDigits char inPlaces)

theorem isLiteralChar_of_mem {literal : PlainLiteral} {char : Char}
    (member : char ∈ literal.toChars) : IsLiteralChar char := by
  rcases List.mem_append.mp member with inSign | inBody
  · cases sign : literal.sign with
    | absent => simp [sign, Sign.chars] at inSign
    | plus => exact isLiteralChar_of_sign (Or.inl (by simpa [sign, Sign.chars] using inSign))
    | minus => exact isLiteralChar_of_sign (Or.inr (by simpa [sign, Sign.chars] using inSign))
  · rcases mem_body inBody with digit | point
    · exact isLiteralChar_of_digit digit
    · exact Or.inr (Or.inl point)

theorem areSolid_toChars (literal : PlainLiteral) : AreSolid literal.toChars := by
  intro char member
  exact (isLiteralChar_of_mem member).isBlank_eq_false

theorem body_ne_nil (literal : PlainLiteral) : literal.body ≠ [] := by
  have given := literal.given
  unfold body
  split
  · rename_i noPlaces
    simpa [noPlaces] using given
  · simp

theorem splitSign_toChars (literal : PlainLiteral) :
    splitSign literal.toChars = (decide (literal.sign = .minus), literal.body) := by
  unfold toChars
  cases sign : literal.sign with
  | plus => rfl
  | minus => rfl
  | absent =>
      apply splitSign_of_unsigned
      · intro first
        have known := mem_body (List.mem_of_mem_head? first)
        simp [Char.isDigit] at known
      · intro first
        have known := mem_body (List.mem_of_mem_head? first)
        simp [Char.isDigit] at known

theorem exists_run_body (literal : PlainLiteral) (fits : literal.Fits) :
    ∃ last, Reading.start.run literal.body = .ok last ∧
      last.Holds (ofDigits literal.digits) literal.fraction.length literal.places.isSome true := by
  obtain ⟨digitsFit, placesFit⟩ := fits
  have given := literal.given
  have placesDigits := literal.placesDigits
  unfold body
  unfold digits fraction at *
  cases places : literal.places with
  | none =>
      simp only [places, Option.getD_none, List.append_nil, List.length_nil] at given digitsFit ⊢
      obtain ⟨last, ran, holds⟩ :=
        Reading.run_digits Reading.start_holds literal.wholeDigits digitsFit (by simp)
      refine ⟨last, ran, ?_⟩
      have seen : (false || !literal.whole.isEmpty) = true := by simpa using given
      rw [seen] at holds
      exact holds
  | some fraction =>
      simp only [places, Option.getD_some] at given digitsFit placesFit placesDigits ⊢
      obtain ⟨last, ran, holds⟩ :=
        Reading.run_pointed literal.wholeDigits placesDigits digitsFit placesFit
      refine ⟨last, ran, ?_⟩
      have seen : (!literal.whole.isEmpty || !fraction.isEmpty) = true := by
        simpa [← not_and_or] using given
      rw [seen] at holds
      exact holds

/-- No digit gets lost while there is room for all of them. -/
theorem read_toChars (literal : PlainLiteral) (fits : literal.Fits) :
    read literal.toChars = .ok (literal.toDecimal fits) := by
  obtain ⟨last, ran, holds⟩ := literal.exists_run_body fits
  have given : literal.toChars.isEmpty = false := by
    simp [toChars, literal.body_ne_nil]
  have plain : readPlain literal.toChars = .ok (literal.toDecimal fits) := by
    rw [readPlain, given, splitSign_toChars, ran]
    exact toDecimal_of_holds holds _ fits.digits_lt fits.places_le
  rw [read, plain]

end PlainLiteral

def printed (number : Decimal) : PlainLiteral where
  sign := if number.negative then .minus else .absent
  whole := number.wholeChars
  places := if number.scale = 0 then none else some number.fractionChars
  wholeDigits := number.areDigits_chars.1
  placesDigits := by
    split
    · simp [AreDigits]
    · exact number.areDigits_chars.2
  given := List.append_ne_nil_of_left_ne_nil number.wholeChars_ne_nil _

theorem toChars_printed (number : Decimal) : number.printed.toChars = number.toChars := by
  have sign : number.printed.sign.chars = signChars number.negative := by
    cases negative : number.negative <;> simp [printed, negative, Sign.chars, signChars]
  rw [PlainLiteral.toChars, sign, toChars_eq, List.append_assoc]
  congr 1
  by_cases whole : number.scale = 0
  · simp [printed, PlainLiteral.body, whole]
  · simp [printed, PlainLiteral.body, whole]

theorem isLiteralChar_of_mem_toChars {number : Decimal} {char : Char}
    (member : char ∈ number.toChars) : IsLiteralChar char := by
  rw [← toChars_printed] at member
  exact PlainLiteral.isLiteralChar_of_mem member

theorem areSolid_toChars (number : Decimal) : AreSolid number.toChars := by
  rw [← toChars_printed]
  exact number.printed.areSolid_toChars

end Underwriting.Decimal
