import Mathlib.Data.List.Lex
import Mathlib.Data.String.Basic
import Underwriting.Proofs.Calendar.AgeOrder
import Underwriting.Proofs.Text.Digits

/-!
Dates in the order of their texts. Digits of one width are in the order of their numbers, so the texts
of dates in years of four digits are in the order of the calendar. The texts of all other years have
a sign in front and are below these.
-/

namespace Underwriting

namespace Text

theorem append_lt_append_iff {left right front back : List Char} (same : left.length = right.length) :
    left ++ front < right ++ back ↔ left < right ∨ left = right ∧ front < back := by
  induction left generalizing right with
  | nil =>
      obtain rfl := List.length_eq_zero_iff.mp same.symm
      simp
  | cons first rest ih =>
      cases right with
      | nil => simp at same
      | cons second others =>
          have sameRest : rest.length = others.length := by simpa using same
          simp only [List.cons_append, List.cons_lt_cons_iff, ih sameRest, List.cons.injEq]
          tauto

theorem lt_iff_digitValue {left right : Char} (leftDigit : left.isDigit = true)
    (rightDigit : right.isDigit = true) :
    (left < right ↔ digitValue left < digitValue right) ∧
      (left = right ↔ digitValue left = digitValue right) := by
  have leftBounds := toNat_bounds_of_isDigit leftDigit
  have rightBounds := toNat_bounds_of_isDigit rightDigit
  have less : left < right ↔ left.toNat < right.toNat := Iff.rfl
  have same : left = right ↔ left.toNat = right.toNat := Char.toNat_inj.symm
  rw [less, same]
  unfold digitValue
  omega

theorem mul_add_lt_iff {first second base left right : Nat} (leftBelow : left < base)
    (rightBelow : right < base) :
    first * base + left < second * base + right ↔
      first < second ∨ first = second ∧ left < right := by
  rcases lt_trichotomy first second with less | rfl | greater
  · have := Nat.mul_le_mul_right base less
    rw [Nat.succ_mul] at this
    omega
  · omega
  · have := Nat.mul_le_mul_right base greater
    rw [Nat.succ_mul] at this
    omega

/-- Digits of one width are in the order of their numbers. -/
theorem digits_lt_iff {left right : List Char} (leftDigits : AreDigits left)
    (rightDigits : AreDigits right) (same : left.length = right.length) :
    left < right ↔ ofDigits left < ofDigits right := by
  induction left generalizing right with
  | nil =>
      obtain rfl := List.length_eq_zero_iff.mp same.symm
      simp
  | cons first rest ih =>
      cases right with
      | nil => simp at same
      | cons second others =>
          have sameRest : rest.length = others.length := by simpa using same
          obtain ⟨firstDigit, restDigits⟩ := List.forall_mem_cons.mp leftDigits
          obtain ⟨secondDigit, otherDigits⟩ := List.forall_mem_cons.mp rightDigits
          obtain ⟨less, equal⟩ := lt_iff_digitValue firstDigit secondDigit
          have restBelow := ofDigits_lt restDigits
          have othersBelow := ofDigits_lt otherDigits
          rw [← sameRest] at othersBelow
          rw [List.cons_lt_cons_iff, ih restDigits otherDigits sameRest, less, equal, ofDigits_cons,
            ofDigits_cons, ← sameRest, mul_add_lt_iff restBelow othersBelow]

theorem length_paddedDigits {width number : Nat} (some : 0 < width) (below : number < 10 ^ width) :
    (paddedDigits width number).length = width := by
  rw [paddedDigits, List.length_leftpad]
  exact max_eq_left (length_digitsOf_le some below)

/-- Numbers in front of further characters decide the order where they differ. -/
theorem padded_lt_iff {width left right : Nat} (some : 0 < width) (leftBelow : left < 10 ^ width)
    (rightBelow : right < 10 ^ width) {front back : List Char} :
    paddedDigits width left ++ front < paddedDigits width right ++ back ↔
      left < right ∨ left = right ∧ front < back := by
  have same : (paddedDigits width left).length = (paddedDigits width right).length := by
    rw [length_paddedDigits some leftBelow, length_paddedDigits some rightBelow]
  have equal : paddedDigits width left = paddedDigits width right ↔ left = right := by
    constructor
    · intro padded
      rw [← ofDigits_paddedDigits width left, padded, ofDigits_paddedDigits]
    · rintro rfl
      rfl
  rw [append_lt_append_iff same,
    digits_lt_iff (areDigits_paddedDigits _ _) (areDigits_paddedDigits _ _) same,
    ofDigits_paddedDigits, ofDigits_paddedDigits, equal]

end Text

open Text

namespace Date

def HasPlainYear (date : Date) : Prop := 0 ≤ date.year ∧ date.year ≤ 9999

instance (date : Date) : Decidable date.HasPlainYear := inferInstanceAs (Decidable (_ ∧ _))

theorem lt_iff {left right : Date} :
    left < right ↔ left.year < right.year ∨ left.year = right.year ∧
      (left.month < right.month ∨ left.month = right.month ∧ left.day < right.day) := by
  rw [← not_le, le_iff]
  omega

theorem toText_lt_iff {left right : Date} (leftPlain : left.HasPlainYear)
    (rightPlain : right.HasPlainYear) : left.toText < right.toText ↔ left < right := by
  have leftDay := left.day_le_31
  have rightDay := right.day_le_31
  obtain ⟨_, _, _, leftMonth, _⟩ := left.valid
  obtain ⟨_, _, _, rightMonth, _⟩ := right.valid
  obtain ⟨leftFirst, leftLast⟩ := leftPlain
  obtain ⟨rightFirst, rightLast⟩ := rightPlain
  have days : paddedDigits 2 left.day < paddedDigits 2 right.day ↔ left.day < right.day := by
    rw [← List.append_nil (paddedDigits 2 left.day), ← List.append_nil (paddedDigits 2 right.day),
      padded_lt_iff (by decide) (by omega) (by omega)]
    simp
  rw [String.lt_iff_toList_lt, toText, toText, String.toList_ofList, String.toList_ofList, toChars,
    toChars, yearChars, yearChars, if_pos ⟨leftFirst, leftLast⟩, if_pos ⟨rightFirst, rightLast⟩,
    List.append_assoc, List.append_assoc, padded_lt_iff (by decide) (by omega) (by omega),
    List.cons_append, List.cons_append, List.cons_lt_cons_iff,
    padded_lt_iff (by decide) (by omega) (by omega), List.cons_lt_cons_iff, days, lt_iff]
  simp only [lt_self_iff_false, true_and, false_or]
  omega

theorem toText_le_iff {left right : Date} (leftPlain : left.HasPlainYear)
    (rightPlain : right.HasPlainYear) : left.toText ≤ right.toText ↔ left ≤ right := by
  rw [← not_lt, ← not_lt, toText_lt_iff rightPlain leftPlain]

def signChars (date : Date) : List Char :=
  if date.HasPlainYear then [] else if date.year < 0 then ['-'] else ['+']

theorem signChars_of_plain {date : Date} (plain : date.HasPlainYear) : date.signChars = [] :=
  if_pos plain

theorem signChars_of_signed {date : Date} (signed : ¬date.HasPlainYear) :
    date.signChars = ['-'] ∨ date.signChars = ['+'] := by
  rw [signChars, if_neg signed]
  split
  · exact Or.inl rfl
  · exact Or.inr rfl

theorem toChars_eq (date : Date) :
    date.toChars = date.signChars ++ (paddedDigits 4 date.year.natAbs ++
      '-' :: (paddedDigits 2 date.month ++ '-' :: paddedDigits 2 date.day)) := by
  unfold toChars yearChars signChars
  by_cases plain : 0 ≤ date.year ∧ date.year ≤ 9999
  · have size : date.year.toNat = date.year.natAbs := by omega
    rw [if_pos plain, if_pos (show date.HasPlainYear from plain), size]
    simp
  · rw [if_neg plain, if_neg (show ¬date.HasPlainYear from plain)]
    split <;> simp

theorem toText_lt_of_signed {signed plain : Date} (outside : ¬signed.HasPlainYear)
    (plainYear : plain.HasPlainYear) : signed.toText < plain.toText := by
  obtain ⟨first, rest, shape⟩ :=
    List.exists_cons_of_ne_nil (paddedDigits_ne_nil 4 plain.year.natAbs)
  have digit : first.isDigit = true := areDigits_paddedDigits 4 plain.year.natAbs first (by simp [shape])
  have bounds := toNat_bounds_of_isDigit digit
  have below {sign : Char} (small : sign.toNat < 48) (behind others : List Char) :
      sign :: behind < first :: others :=
    List.cons_lt_cons_iff.mpr (Or.inl (show sign.toNat < first.toNat by omega))
  rw [String.lt_iff_toList_lt, toText, toText, String.toList_ofList, String.toList_ofList,
    toChars_eq signed, toChars_eq plain, signChars_of_plain plainYear, shape]
  rcases signChars_of_signed outside with sign | sign
  · rw [sign]
    exact below (by decide) _ _
  · rw [sign]
    exact below (by decide) _ _

/-- A date is between two dates of plain years exactly if its text is between their texts. -/
theorem between_texts_iff {opening closing : Date} (openingPlain : opening.HasPlainYear)
    (closingPlain : closing.HasPlainYear) (on : Date) :
    (opening.toText ≤ on.toText ∧ on.toText ≤ closing.toText) ↔ opening ≤ on ∧ on ≤ closing := by
  by_cases plain : on.HasPlainYear
  · rw [toText_le_iff openingPlain plain, toText_le_iff plain closingPlain]
  · refine iff_of_false ?_ ?_
    · rintro ⟨opened, _⟩
      exact absurd (toText_lt_of_signed plain openingPlain) (not_lt.mpr opened)
    · rintro ⟨opened, closed⟩
      rw [le_iff] at opened closed
      obtain ⟨first, _⟩ := openingPlain
      obtain ⟨_, last⟩ := closingPlain
      exact plain ⟨by omega, by omega⟩

end Date

end Underwriting
