import Underwriting.Proofs.Decimal.PlainLiteral

/-!
Literals of numbers. A plain literal may have an exponent behind it, which moves the point, and
separators, which count for nothing. A text stands for one number at most.
-/

namespace Underwriting.Decimal

open Text

theorem exists_sign (text : List Char) :
    ∃ sign : Sign, text = sign.chars ++ (splitSign text).2 ∧
      (splitSign text).1 = decide (sign = .minus) := by
  unfold splitSign
  split
  · exact ⟨.minus, rfl, rfl⟩
  · exact ⟨.plus, rfl, rfl⟩
  · exact ⟨.absent, rfl, rfl⟩

namespace PlainLiteral

theorem takeWhile_body (literal : PlainLiteral) :
    literal.body.takeWhile Char.isDigit = literal.whole ∧
      (literal.body.dropWhile Char.isDigit).tail = literal.fraction := by
  unfold body fraction
  cases literal.places with
  | none =>
      simp [List.takeWhile_eq_self_iff.mpr literal.wholeDigits,
        List.dropWhile_eq_nil_iff.mpr literal.wholeDigits]
  | some places =>
      have stop : '.'.isDigit = false := rfl
      obtain ⟨taken, dropped⟩ := takeWhile_append_of_stop literal.wholeDigits stop places
      exact ⟨taken, congrArg List.tail dropped⟩

theorem value_eq_of_toChars_eq {left right : PlainLiteral} (same : left.toChars = right.toChars) :
    left.value = right.value := by
  have split : (decide (left.sign = .minus), left.body) = (decide (right.sign = .minus), right.body) := by
    rw [← splitSign_toChars, same, splitSign_toChars]
  obtain ⟨sameSign, sameBody⟩ := Prod.mk.inj split
  have sameMinus : left.sign = .minus ↔ right.sign = .minus := by simpa using sameSign
  have sameWhole : left.whole = right.whole := by
    rw [← left.takeWhile_body.1, sameBody, right.takeWhile_body.1]
  have sameFraction : left.fraction = right.fraction := by
    rw [← left.takeWhile_body.2, sameBody, right.takeWhile_body.2]
  simp only [value, digits, sameMinus, sameWhole, sameFraction]

theorem isExponentMark_of_mem {literal : PlainLiteral} {char : Char}
    (member : char ∈ literal.toChars) : isExponentMark char = false := by
  rcases List.mem_append.mp member with inSign | inBody
  · cases sign : literal.sign <;> simp_all [Sign.chars, isExponentMark]
  · rcases mem_body inBody with digit | rfl
    · exact isExponentMark_of_digit digit
    · rfl

end PlainLiteral

structure Exponent where
  mark : Char
  sign : List Char
  digits : List Char
  isMark : isExponentMark mark = true
  isSign : sign ∈ [[], ['+'], ['-'], ['-', '+']]
  given : digits ≠ []
  areDigits : AreDigits digits

namespace Exponent

def lowers (exponent : Exponent) : Bool := exponent.sign.head? == some '-'

def size (exponent : Exponent) : Nat := ofDigits exponent.digits

def toChars (exponent : Exponent) : List Char :=
  exponent.mark :: (exponent.sign ++ exponent.digits)

def factor (exponent : Exponent) : ℚ :=
  if exponent.lowers then (10 ^ exponent.size)⁻¹ else 10 ^ exponent.size

theorem takeWhile_behind (exponent : Exponent) :
    (exponent.sign ++ exponent.digits).takeWhile (!Char.isDigit ·) = exponent.sign ∧
      (exponent.sign ++ exponent.digits).dropWhile (!Char.isDigit ·) = exponent.digits := by
  obtain ⟨first, rest, shape⟩ := List.exists_cons_of_ne_nil exponent.given
  have digit : first.isDigit = true := exponent.areDigits first (by simp [shape])
  have isSign := exponent.isSign
  have noDigit : ∀ char ∈ exponent.sign, (!char.isDigit) = true := by
    intro char member
    simp only [List.mem_cons, List.not_mem_nil, or_false] at isSign
    rcases isSign with sign | sign | sign | sign
    · simp [sign] at member
    · simp only [sign, List.mem_singleton] at member
      subst member
      rfl
    · simp only [sign, List.mem_singleton] at member
      subst member
      rfl
    · simp only [sign, List.mem_cons, List.not_mem_nil, or_false] at member
      rcases member with rfl | rfl <;> rfl
  rw [shape]
  exact takeWhile_append_of_stop noDigit (by simp [digit]) rest

theorem factor_eq_of_toChars_eq {left right : Exponent} (same : left.toChars = right.toChars) :
    left.factor = right.factor := by
  have behind : left.sign ++ left.digits = right.sign ++ right.digits := (List.cons.inj same).2
  have sameSign : left.sign = right.sign := by
    rw [← left.takeWhile_behind.1, behind, right.takeWhile_behind.1]
  have sameDigits : left.digits = right.digits := by
    rw [← left.takeWhile_behind.2, behind, right.takeWhile_behind.2]
  rw [factor, factor, lowers, lowers, size, size, sameSign, sameDigits]

end Exponent

theorem exists_unsigned {text : List Char} {number : Nat} (found : unsigned? text = some number) :
    ∃ sign digits, text = sign ++ digits ∧ (sign = [] ∨ sign = ['+']) ∧ digits ≠ [] ∧
      AreDigits digits ∧ ofDigits digits = number := by
  unfold unsigned? at found
  split at found
  · exact ⟨['+'], _, rfl, Or.inr rfl, natural?_eq_some_iff.mp found⟩
  · exact ⟨[], _, rfl, Or.inl rfl, natural?_eq_some_iff.mp found⟩

theorem exists_exponent {mark : Char} {text : List Char} {lowers : Bool} {size : Nat}
    (isMark : isExponentMark mark = true) (found : exponent? text = some (lowers, size)) :
    ∃ exponent : Exponent, exponent.toChars = mark :: text ∧ exponent.lowers = lowers ∧
      exponent.size = size := by
  unfold exponent? at found
  split at found
  · obtain ⟨_, sized, same⟩ := Option.map_eq_some_iff.mp found
    cases same
    obtain ⟨sign, digits, rfl, isSign, given, areDigits, rfl⟩ :=
      exists_unsigned (Option.filter_eq_some_iff.mp sized).1
    refine ⟨⟨mark, '-' :: sign, digits, isMark, ?_, given, areDigits⟩, rfl, rfl, rfl⟩
    rcases isSign with rfl | rfl <;> simp
  · obtain ⟨_, sized, same⟩ := Option.map_eq_some_iff.mp found
    cases same
    obtain ⟨sign, digits, rfl, isSign, given, areDigits, rfl⟩ :=
      exists_unsigned (Option.filter_eq_some_iff.mp sized).1
    refine ⟨⟨mark, sign, digits, isMark, ?_, given, areDigits⟩, rfl, ?_, rfl⟩
    · rcases isSign with rfl | rfl <;> simp
    · rcases isSign with rfl | rfl <;> simp [Exponent.lowers]

structure NumberLiteral where
  base : PlainLiteral
  exponent : Option Exponent

namespace NumberLiteral

def exponentChars (literal : NumberLiteral) : List Char :=
  (literal.exponent.map Exponent.toChars).getD []

def toChars (literal : NumberLiteral) : List Char :=
  literal.base.toChars ++ literal.exponentChars

def value (literal : NumberLiteral) : ℚ :=
  literal.base.value * (literal.exponent.map Exponent.factor).getD 1

theorem takeWhile_toChars (literal : NumberLiteral) :
    literal.toChars.takeWhile (!isExponentMark ·) = literal.base.toChars ∧
      literal.toChars.dropWhile (!isExponentMark ·) = literal.exponentChars := by
  have noMark : ∀ char ∈ literal.base.toChars, (!isExponentMark char) = true := by
    intro char member
    simp [PlainLiteral.isExponentMark_of_mem member]
  unfold toChars exponentChars
  cases literal.exponent with
  | none =>
      simp [List.takeWhile_eq_self_iff.mpr noMark, List.dropWhile_eq_nil_iff.mpr noMark]
  | some exponent => exact takeWhile_append_of_stop noMark (by simp [exponent.isMark]) _

theorem values_eq_of_toChars_eq {left right : NumberLiteral} (same : left.toChars = right.toChars) :
    left.base.value = right.base.value ∧ left.value = right.value := by
  have sameBase : left.base.value = right.base.value := by
    apply PlainLiteral.value_eq_of_toChars_eq
    rw [← left.takeWhile_toChars.1, same, right.takeWhile_toChars.1]
  have sameExponent : left.exponentChars = right.exponentChars := by
    rw [← left.takeWhile_toChars.2, same, right.takeWhile_toChars.2]
  have sameFactor : (left.exponent.map Exponent.factor).getD 1 =
      (right.exponent.map Exponent.factor).getD 1 := by
    unfold exponentChars at sameExponent
    cases leftExponent : left.exponent with
    | none =>
        cases rightExponent : right.exponent with
        | none => rfl
        | some exponent => simp [leftExponent, rightExponent, Exponent.toChars] at sameExponent
    | some exponent =>
        cases rightExponent : right.exponent with
        | none => simp [leftExponent, rightExponent, Exponent.toChars] at sameExponent
        | some other =>
            simp only [leftExponent, rightExponent, Option.map_some, Option.getD_some] at sameExponent
            exact Exponent.factor_eq_of_toChars_eq sameExponent
  exact ⟨sameBase, by rw [value, value, sameBase, sameFactor]⟩

end NumberLiteral

def withoutSeparators (text : List Char) : List Char := text.filter (· != '_')

theorem withoutSeparators_append (front back : List Char) :
    withoutSeparators (front ++ back) = withoutSeparators front ++ withoutSeparators back :=
  List.filter_append ..

theorem withoutSeparators_of_known {text : List Char} (known : ∀ char ∈ text, IsLiteralChar char) :
    withoutSeparators text = text := by
  apply List.filter_eq_self.mpr
  intro char member
  cases separator : char != '_' with
  | true => rfl
  | false =>
      have literal := known char member
      obtain rfl : char = '_' := by simpa using separator
      simp [IsLiteralChar, Char.isDigit] at literal

theorem exists_marked {text : List Char} {lowers : Bool} {size : Nat}
    (found : exponent? (text.dropWhile (!isExponentMark ·)).tail = some (lowers, size)) :
    ∃ exponent : Exponent, exponent.lowers = lowers ∧ exponent.size = size ∧
      withoutSeparators text =
        withoutSeparators (text.takeWhile (!isExponentMark ·)) ++ exponent.toChars := by
  have stops := List.head?_dropWhile_not (!isExponentMark ·) text
  cases rest : text.dropWhile (!isExponentMark ·) with
  | nil => simp [rest, exponent?, unsigned?, natural?] at found
  | cons mark behind =>
      simp only [rest, List.tail_cons, List.head?_cons] at found stops
      have isMark : isExponentMark mark = true := by simpa using stops
      have known : ∀ char ∈ mark :: behind, IsLiteralChar char := by
        intro char member
        rcases List.mem_cons.mp member with rfl | inBehind
        · exact isLiteralChar_of_mark isMark
        · exact known_of_exponent? found char inBehind
      have whole : text = text.takeWhile (!isExponentMark ·) ++ mark :: behind := by
        rw [← rest, List.takeWhile_append_dropWhile]
      obtain ⟨exponent, spelled, sameSign, sameSize⟩ := exists_exponent isMark found
      refine ⟨exponent, sameSign, sameSize, ?_⟩
      conv_lhs => rw [whole, withoutSeparators_append, withoutSeparators_of_known known, ← spelled]

def Spells (text : List Char) (literal : NumberLiteral) : Prop :=
  withoutSeparators text = literal.toChars

def Denotes (text : List Char) (number : ℚ) : Prop :=
  ∃ literal, Spells text literal ∧ literal.value = number

/-- However a text is taken apart, its number and the one in front of an exponent are the same. -/
theorem Spells.values_eq {text : List Char} {left right : NumberLiteral} (first : Spells text left)
    (second : Spells text right) :
    left.base.value = right.base.value ∧ left.value = right.value :=
  NumberLiteral.values_eq_of_toChars_eq (first.symm.trans second)

end Underwriting.Decimal
