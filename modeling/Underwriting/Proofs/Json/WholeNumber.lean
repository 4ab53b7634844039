import Underwriting.Json.Scalar
import Underwriting.Proofs.Text.Digits

/-!
Whole numbers. What is written for a whole number is scanned as a literal without places and exponent,
as long as no digit, point or exponent comes behind it, and stands for the number where 64 bits hold
it.
-/

namespace Underwriting.Json

open Text

/-- Nothing in front of this text can be a number that goes on in it. -/
def EndsNumber (rest : List Char) : Prop :=
  ∀ char ∈ rest.head?, char.isDigit = false ∧ char ≠ '.' ∧ NumberLiteral.isExponentMark char = false

-- Only the first character is looked at; all characters are too many to be gone through.
instance : (rest : List Char) → Decidable (EndsNumber rest)
  | [] => .isTrue (by simp [EndsNumber])
  | char :: rest =>
      decidable_of_iff
        (char.isDigit = false ∧ char ≠ '.' ∧ NumberLiteral.isExponentMark char = false)
        (by simp [EndsNumber])

theorem digitsOf_leading {number : Nat} {rest : List Char} (leading : digitsOf number = '0' :: rest) :
    rest = [] := by
  by_contra more
  have size : rest.length < (digitsOf number).length := by simp [leading]
  have positive : 0 < number := by
    apply Nat.pos_of_ne_zero
    rintro rfl
    exact more (List.cons.inj leading).2.symm
  have large := pow_le_of_length_digitsOf size positive
  have small : ofDigits rest < 10 ^ rest.length := by
    apply ofDigits_lt
    intro char member
    exact areDigits_digitsOf number char (by simp [leading, member])
  rw [← ofDigits_digitsOf number, leading, ofDigits_cons] at large
  simp [digitValue] at large
  omega

namespace NumberLiteral

def ofInt : Int → NumberLiteral
  | .ofNat size => ⟨false, digitsOf size, [], []⟩
  | .negSucc size => ⟨true, digitsOf (size + 1), [], []⟩

theorem scanDigits_append {digits rest : List Char} (given : digits ≠ []) (all : AreDigits digits)
    (ends : EndsNumber rest) : scanDigits (digits ++ rest) = .ok digits := by
  have taken : (digits ++ rest).takeWhile Char.isDigit = digits := by
    rw [List.takeWhile_append_of_pos all]
    cases rest with
    | nil => simp
    | cons char others => simp [(ends char rfl).1]
  unfold scanDigits
  rw [taken]
  cases digits with
  | nil => exact absurd rfl given
  | cons first others => rfl

theorem scanWhole_append (number : Nat) {rest : List Char} (ends : EndsNumber rest) :
    scanWhole (digitsOf number ++ rest) = .ok (digitsOf number) := by
  rw [scanWhole, scanDigits_append (digitsOf_ne_nil number) (areDigits_digitsOf number) ends,
    Except.bind]
  split
  · rename_i leading
    cases digitsOf_leading leading
  · rfl

theorem scanFraction_of_ends {rest : List Char} (ends : EndsNumber rest) :
    scanFraction rest = .ok [] := by
  unfold scanFraction
  split
  · exact absurd rfl (ends '.' rfl).2.1
  · rfl

theorem scanExponent_of_ends {rest : List Char} (ends : EndsNumber rest) :
    scanExponent rest = .ok [] := by
  cases rest with
  | nil => rfl
  | cons mark others =>
      have noMark := (ends mark rfl).2.2
      cases others <;> simp [scanExponent, noMark]

theorem scanUnsigned_append (negative : Bool) (number : Nat) {rest : List Char}
    (ends : EndsNumber rest) :
    scanUnsigned negative (digitsOf number ++ rest) = .ok ⟨negative, digitsOf number, [], []⟩ := by
  unfold scanUnsigned
  rw [scanWhole_append number ends]
  simp only [bind, Except.bind, List.drop_left, scanFraction_of_ends ends, List.isEmpty_nil,
    ↓reduceIte, scanExponent_of_ends ends]
  rfl

theorem scan_integerChars (number : Int) {rest : List Char} (ends : EndsNumber rest) :
    scan (integerChars number ++ rest) = .ok (ofInt number) := by
  cases number with
  | ofNat size =>
      have unsigned : scan (digitsOf size ++ rest) = scanUnsigned false (digitsOf size ++ rest) := by
        unfold scan
        split
        · rename_i signed
          have first : (digitsOf size).head? = some '-' := by
            cases digits : digitsOf size with
            | nil => exact absurd digits (digitsOf_ne_nil size)
            | cons char others => simpa [digits] using (List.cons.inj (digits ▸ signed)).1
          exact absurd first (head?_ne_of_digits (areDigits_digitsOf size) rfl)
        · rfl
      exact unsigned.trans (scanUnsigned_append false size ends)
  | negSucc size => exact scanUnsigned_append true (size + 1) ends

theorem length_ofInt (number : Int) : (ofInt number).length = (integerChars number).length := by
  cases number with
  | ofNat size => simp [ofInt, length, integerChars]
  | negSucc size =>
      simp [ofInt, length, integerChars]
      omega

/-- The numbers of 64 bits, with a sign or without, are read as they are written. -/
theorem toScalar_ofInt {number : Int} (above : -(2 : Int) ^ 63 ≤ number) (below : number < 2 ^ 64) :
    (ofInt number).toScalar = .ok (.whole number) := by
  have whole : (ofInt number).whole? = some number := by
    cases number with
    | ofNat size =>
        have fits : size < significandBound := by
          rw [Int.ofNat_eq_natCast] at below
          exact_mod_cast below
        simp [whole?, ofInt, fits]
    | negSucc size =>
        have fits : size + 1 ≤ powerOfTwo 63 := by
          rw [Int.negSucc_eq] at above
          exact_mod_cast neg_le_neg_iff.mp above
        simp [whole?, ofInt, fits, Int.negSucc_eq]
  rw [toScalar, whole]

end NumberLiteral

end Underwriting.Json
