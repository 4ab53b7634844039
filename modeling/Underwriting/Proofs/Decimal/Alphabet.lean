import Underwriting.Proofs.Decimal.Reading
import Underwriting.Proofs.Text.IntegerLiteral
import Underwriting.Proofs.Text.Trimming

/-!
The characters of decimal literals: digits, a point, signs, the marks of an exponent, and separators.
No text with another character among them is read.
-/

namespace Underwriting.Decimal

open Text

def IsLiteralChar (char : Char) : Prop :=
  char.isDigit = true ∨ char = '.' ∨ char = '+' ∨ char = '-' ∨ char = 'e' ∨ char = 'E'

def IsLiteralOrSeparator (char : Char) : Prop := IsLiteralChar char ∨ char = '_'

theorem isLiteralChar_of_digit {char : Char} (digit : char.isDigit = true) : IsLiteralChar char :=
  Or.inl digit

theorem isLiteralChar_of_sign {char : Char} (sign : char = '+' ∨ char = '-') : IsLiteralChar char := by
  rcases sign with rfl | rfl <;> simp [IsLiteralChar]

theorem isLiteralChar_of_mark {char : Char} (mark : isExponentMark char = true) :
    IsLiteralChar char := by
  have marks : char = 'e' ∨ char = 'E' := by simpa [isExponentMark] using mark
  rcases marks with rfl | rfl <;> simp [IsLiteralChar]

theorem IsLiteralChar.isBlank_eq_false {char : Char} (known : IsLiteralChar char) :
    isBlank char = false := by
  rcases known with digit | rfl | rfl | rfl | rfl | rfl
  · exact isBlank_of_isDigit digit
  all_goals rfl

theorem Reading.known_of_step {reading next : Reading} {char : Char}
    (stepped : reading.step char = .ok next) : IsLiteralOrSeparator char := by
  by_cases digit : char.isDigit = true
  · exact Or.inl (isLiteralChar_of_digit digit)
  · by_cases point : char = '.'
    · exact Or.inl (Or.inr (Or.inl point))
    · by_cases separator : char = '_'
      · exact Or.inr separator
      · simp [step, digit, point, separator] at stepped

theorem Reading.known_of_run {reading last : Reading} {chars : List Char}
    (ran : reading.run chars = .ok last) : ∀ char ∈ chars, IsLiteralOrSeparator char := by
  induction chars generalizing reading with
  | nil => simp
  | cons first rest ih =>
      intro char member
      cases stepped : reading.step first with
      | error fault => simp [run, stepped, Except.bind] at ran
      | ok next =>
          simp only [run, stepped, Except.bind] at ran
          rcases List.mem_cons.mp member with rfl | inRest
          · exact known_of_step stepped
          · exact ih ran char inRest

theorem mem_splitSign {text : List Char} {char : Char} (member : char ∈ text) :
    (char = '+' ∨ char = '-') ∨ char ∈ (splitSign text).2 := by
  unfold splitSign
  split
  · rcases List.mem_cons.mp member with minus | behind
    · exact Or.inl (Or.inr minus)
    · exact Or.inr behind
  · rcases List.mem_cons.mp member with plus | behind
    · exact Or.inl (Or.inl plus)
    · exact Or.inr behind
  · exact Or.inr member

theorem known_of_readPlain {text : List Char} {number : Decimal}
    (accepted : readPlain text = .ok number) : ∀ char ∈ text, IsLiteralOrSeparator char := by
  intro char member
  rcases mem_splitSign member with sign | behind
  · exact Or.inl (isLiteralChar_of_sign sign)
  · unfold readPlain at accepted
    split at accepted
    · cases accepted
    · cases ran : Reading.start.run (splitSign text).2 with
      | error fault => simp [ran, Except.bind] at accepted
      | ok last => exact Reading.known_of_run ran char behind

theorem known_of_unsigned? {text : List Char} {number : Nat} (found : unsigned? text = some number) :
    ∀ char ∈ text, IsLiteralChar char := by
  intro char member
  unfold unsigned? at found
  split at found
  · obtain ⟨_, digits, _⟩ := natural?_eq_some_iff.mp found
    rcases List.mem_cons.mp member with plus | behind
    · exact isLiteralChar_of_sign (Or.inl plus)
    · exact isLiteralChar_of_digit (digits char behind)
  · obtain ⟨_, digits, _⟩ := natural?_eq_some_iff.mp found
    exact isLiteralChar_of_digit (digits char member)

theorem known_of_exponent? {text : List Char} {exponent : Bool × Nat}
    (found : exponent? text = some exponent) : ∀ char ∈ text, IsLiteralChar char := by
  intro char member
  unfold exponent? at found
  split at found
  · obtain ⟨size, sized, _⟩ := Option.map_eq_some_iff.mp found
    have unsigned := (Option.filter_eq_some_iff.mp sized).1
    rcases List.mem_cons.mp member with minus | behind
    · exact isLiteralChar_of_sign (Or.inr minus)
    · exact known_of_unsigned? unsigned char behind
  · obtain ⟨size, sized, _⟩ := Option.map_eq_some_iff.mp found
    have unsigned := (Option.filter_eq_some_iff.mp sized).1
    exact known_of_unsigned? unsigned char member

theorem known_of_readScientific {text : List Char} {number : Decimal}
    (accepted : readScientific text = .ok number) : ∀ char ∈ text, IsLiteralOrSeparator char := by
  intro char member
  unfold readScientific at accepted
  cases plain : readPlain (text.takeWhile (!isExponentMark ·)) with
  | error fault => simp [plain, Except.bind] at accepted
  | ok base =>
      cases found : exponent? (text.dropWhile (!isExponentMark ·)).tail with
      | none => simp [plain, found, Except.bind] at accepted
      | some exponent =>
          rw [← List.takeWhile_append_dropWhile (p := (!isExponentMark ·)) (l := text)] at member
          rcases List.mem_append.mp member with inBase | inRest
          · exact known_of_readPlain plain char inBase
          · cases rest : text.dropWhile (!isExponentMark ·) with
            | nil => simp [rest] at inRest
            | cons mark exponentChars =>
                have stops := List.head?_dropWhile_not (!isExponentMark ·) text
                rw [rest] at inRest found stops
                rcases List.mem_cons.mp inRest with rfl | inExponent
                · exact Or.inl (isLiteralChar_of_mark (by simpa using stops))
                · exact Or.inl (known_of_exponent? found char inExponent)

theorem known_of_read {text : List Char} {number : Decimal} (accepted : read text = .ok number) :
    ∀ char ∈ text, IsLiteralOrSeparator char := by
  unfold read at accepted
  split at accepted
  · rename_i plain
    exact known_of_readPlain plain
  · split at accepted
    · exact known_of_readScientific accepted
    · cases accepted

end Underwriting.Decimal
