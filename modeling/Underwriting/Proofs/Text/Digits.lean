import Mathlib.Tactic.Linarith
import Underwriting.Text.Digits

/-!
Numbers behind digits. A run of digits is a number below the power of ten of its length, digits put
behind others shift these, and zeros in front count for nothing.
-/

namespace Underwriting.Text

def AreDigits (chars : List Char) : Prop := ∀ char ∈ chars, char.isDigit = true

instance (chars : List Char) : Decidable (AreDigits chars) :=
  decidable_of_iff (chars.all Char.isDigit = true) List.all_eq_true

theorem toNat_bounds_of_isDigit {char : Char} (digit : char.isDigit = true) :
    48 ≤ char.toNat ∧ char.toNat ≤ 57 := by
  simpa [Char.isDigit, UInt32.le_iff_toNat_le] using digit

theorem head?_ne_of_digits {digits : List Char} (all : AreDigits digits) {char : Char}
    (other : char.isDigit = false) : digits.head? ≠ some char := by
  intro first
  have digit := all char (List.mem_of_mem_head? first)
  simp [other] at digit

theorem takeWhile_append_of_stop {char : Char} {front : List Char} {keeps : Char → Bool}
    (all : ∀ char ∈ front, keeps char = true) (stop : keeps char = false) (back : List Char) :
    (front ++ char :: back).takeWhile keeps = front ∧
      (front ++ char :: back).dropWhile keeps = char :: back := by
  rw [List.takeWhile_append_of_pos all, List.dropWhile_append_of_pos all,
    List.takeWhile_cons_of_neg (by simp [stop]), List.dropWhile_cons_of_neg (by simp [stop]),
    List.append_nil]
  exact ⟨rfl, rfl⟩

theorem digitValue_lt {char : Char} (digit : char.isDigit = true) : digitValue char < 10 := by
  have bounds := toNat_bounds_of_isDigit digit
  unfold digitValue
  omega

@[simp] theorem ofDigits_nil : ofDigits [] = 0 := rfl

theorem ofDigits_append (front back : List Char) :
    ofDigits (front ++ back) = ofDigits front * 10 ^ back.length + ofDigits back := by
  unfold ofDigits
  rw [Nat.ofDigitChars_append, Nat.ofDigitChars_eq_ofDigitChars_zero, Nat.mul_comm]

theorem ofDigits_le_append (front back : List Char) : ofDigits front ≤ ofDigits (front ++ back) := by
  have := Nat.le_mul_of_pos_right (ofDigits front)
    (Nat.pow_pos (n := back.length) (by decide : 0 < 10))
  rw [ofDigits_append]
  omega

theorem ofDigits_singleton (char : Char) : ofDigits [char] = digitValue char := by
  simp [ofDigits, Nat.ofDigitChars_cons, digitValue]

theorem ofDigits_concat (front : List Char) (char : Char) :
    ofDigits (front ++ [char]) = ofDigits front * 10 + digitValue char := by
  rw [ofDigits_append, ofDigits_singleton, List.length_singleton, Nat.pow_one]

theorem ofDigits_cons (char : Char) (rest : List Char) :
    ofDigits (char :: rest) = digitValue char * 10 ^ rest.length + ofDigits rest := by
  rw [← List.singleton_append, ofDigits_append, ofDigits_singleton]

theorem ofDigits_lt {chars : List Char} (digits : AreDigits chars) :
    ofDigits chars < 10 ^ chars.length := by
  induction chars with
  | nil => simp
  | cons char rest ih =>
      have below := ih fun other member => digits other (by simp [member])
      have first := Nat.mul_le_mul_right (10 ^ rest.length)
        (Nat.le_of_lt_succ (digitValue_lt (digits char (by simp))))
      rw [ofDigits_cons, List.length_cons, Nat.pow_succ]
      omega

theorem areDigits_digitsOf (number : Nat) : AreDigits (digitsOf number) :=
  fun _ member => isDigit_of_mem_digitsOf member

theorem areDigits_replicate_zero (count : Nat) : AreDigits (List.replicate count '0') := by
  intro char member
  rw [List.eq_of_mem_replicate member]
  rfl

theorem areDigits_append {front back : List Char} (first : AreDigits front)
    (second : AreDigits back) : AreDigits (front ++ back) := by
  intro char member
  rcases List.mem_append.mp member with inFront | inBack
  · exact first char inFront
  · exact second char inBack

theorem paddedDigits_ne_nil (width number : Nat) : paddedDigits width number ≠ [] :=
  List.append_ne_nil_of_right_ne_nil _ (digitsOf_ne_nil number)

theorem areDigits_paddedDigits (width number : Nat) : AreDigits (paddedDigits width number) :=
  areDigits_append (areDigits_replicate_zero _) (areDigits_digitsOf number)

@[simp] theorem ofDigits_replicate_zero (count : Nat) : ofDigits (List.replicate count '0') = 0 := by
  simp [ofDigits]

@[simp] theorem ofDigits_paddedDigits (width number : Nat) :
    ofDigits (paddedDigits width number) = number := by
  rw [paddedDigits, List.leftpad, ofDigits_append, ofDigits_replicate_zero, Nat.zero_mul,
    Nat.zero_add, ofDigits_digitsOf]

/-- The leading digits of a number make what is left of it without the others. -/
theorem ofDigits_take {chars : List Char} (digits : AreDigits chars) (count : Nat) :
    ofDigits (chars.take count) = ofDigits chars / 10 ^ (chars.length - count) := by
  have rest : ofDigits (chars.drop count) < 10 ^ (chars.length - count) := by
    have below : ofDigits (chars.drop count) < 10 ^ (chars.drop count).length :=
      ofDigits_lt fun char member => digits char (List.mem_of_mem_drop member)
    rwa [List.length_drop] at below
  have split : ofDigits chars =
      ofDigits (chars.take count) * 10 ^ (chars.length - count) + ofDigits (chars.drop count) := by
    conv_lhs => rw [← List.take_append_drop count chars, ofDigits_append, List.length_drop]
  rw [split, Nat.mul_comm, Nat.mul_add_div (by positivity), Nat.div_eq_of_lt rest, Nat.add_zero]

theorem length_digitsOf_le {number count : Nat} (some : 0 < count) (below : number < 10 ^ count) :
    (digitsOf number).length ≤ count :=
  (Nat.length_toDigits_le_iff (by decide) some).mpr below

theorem lt_pow_length_digitsOf (number : Nat) : number < 10 ^ (digitsOf number).length := by
  have below := ofDigits_lt (areDigits_digitsOf number)
  rwa [ofDigits_digitsOf] at below

theorem lt_length_digitsOf {number count : Nat} (above : 10 ^ count ≤ number) :
    count < (digitsOf number).length :=
  (Nat.pow_lt_pow_iff_right (by decide)).mp (lt_of_le_of_lt above (lt_pow_length_digitsOf number))

theorem pow_le_of_length_digitsOf {number count : Nat} (long : count < (digitsOf number).length)
    (positive : 0 < number) : 10 ^ count ≤ number := by
  rcases Nat.eq_zero_or_pos count with none | some
  · rw [none, Nat.pow_zero]
    exact positive
  · by_contra less
    exact absurd (length_digitsOf_le some (not_le.mp less)) (not_le.mpr long)

theorem length_digitsOf {number count : Nat} (above : 10 ^ count ≤ number)
    (below : number < 10 ^ (count + 1)) : (digitsOf number).length = count + 1 :=
  le_antisymm (length_digitsOf_le (by omega) below) (lt_length_digitsOf above)

end Underwriting.Text
