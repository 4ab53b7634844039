import Underwriting.Proofs.Text.Digits

/-!
Literals of whole numbers: digits behind an optional sign. Exactly these are read, and in 32 bits
exactly those of them whose number has that many.
-/

namespace Underwriting.Text

inductive IntegerLiteral : List Char → Int → Prop
  | unsigned {digits : List Char} : digits ≠ [] → AreDigits digits →
      IntegerLiteral digits (ofDigits digits)
  | positive {digits : List Char} : digits ≠ [] → AreDigits digits →
      IntegerLiteral ('+' :: digits) (ofDigits digits)
  | negative {digits : List Char} : digits ≠ [] → AreDigits digits →
      IntegerLiteral ('-' :: digits) (-(ofDigits digits : Int))

theorem natural?_eq_some_iff {text : List Char} {number : Nat} :
    natural? text = some number ↔ text ≠ [] ∧ AreDigits text ∧ ofDigits text = number := by
  unfold natural?
  by_cases digits : text ≠ [] ∧ AreDigits text
  · have accepted : (!text.isEmpty && text.all Char.isDigit) = true := by
      simpa [AreDigits] using digits
    rw [if_pos accepted]
    simp [digits]
  · have refused : ¬(!text.isEmpty && text.all Char.isDigit) = true := by
      simpa [AreDigits] using digits
    rw [if_neg refused]
    constructor
    · intro none
      cases none
    · rintro ⟨given, all, _⟩
      exact absurd ⟨given, all⟩ digits

theorem map_natural?_eq_some_iff {text : List Char} {number : Int} {signed : Nat → Int} :
    (natural? text).map signed = some number ↔
      text ≠ [] ∧ AreDigits text ∧ signed (ofDigits text) = number := by
  rw [Option.map_eq_some_iff]
  constructor
  · rintro ⟨size, read, rfl⟩
    obtain ⟨given, digits, rfl⟩ := natural?_eq_some_iff.mp read
    exact ⟨given, digits, rfl⟩
  · rintro ⟨given, digits, rfl⟩
    exact ⟨_, natural?_eq_some_iff.mpr ⟨given, digits, rfl⟩, rfl⟩

theorem integer?_negative (digits : List Char) :
    integer? ('-' :: digits) = (natural? digits).map fun size : Nat => -(size : Int) := by
  simp only [integer?]
  cases natural? digits <;> rfl

theorem integer?_positive (digits : List Char) :
    integer? ('+' :: digits) = (natural? digits).map fun size : Nat => (size : Int) := by
  simp only [integer?]
  cases natural? digits <;> rfl

theorem integer?_unsigned {text : List Char} (noMinus : text.head? ≠ some '-')
    (noPlus : text.head? ≠ some '+') :
    integer? text = (natural? text).map fun size : Nat => (size : Int) := by
  unfold integer?
  split
  · exact absurd rfl noMinus
  · exact absurd rfl noPlus
  · cases natural? text <;> rfl

theorem integer?_eq_some_iff {text : List Char} {number : Int} :
    integer? text = some number ↔ IntegerLiteral text number := by
  constructor
  · intro read
    by_cases minus : text.head? = some '-'
    · obtain ⟨digits, rfl⟩ := List.head?_eq_some_iff.mp minus
      rw [integer?_negative, map_natural?_eq_some_iff] at read
      obtain ⟨given, digits, rfl⟩ := read
      exact .negative given digits
    · by_cases plus : text.head? = some '+'
      · obtain ⟨digits, rfl⟩ := List.head?_eq_some_iff.mp plus
        rw [integer?_positive, map_natural?_eq_some_iff] at read
        obtain ⟨given, digits, rfl⟩ := read
        exact .positive given digits
      · rw [integer?_unsigned minus plus, map_natural?_eq_some_iff] at read
        obtain ⟨given, digits, rfl⟩ := read
        exact .unsigned given digits
  · intro literal
    cases literal with
    | unsigned given digits =>
        rw [integer?_unsigned (head?_ne_of_digits digits rfl) (head?_ne_of_digits digits rfl)]
        exact map_natural?_eq_some_iff.mpr ⟨given, digits, rfl⟩
    | positive given digits =>
        rw [integer?_positive]
        exact map_natural?_eq_some_iff.mpr ⟨given, digits, rfl⟩
    | negative given digits =>
        rw [integer?_negative]
        exact map_natural?_eq_some_iff.mpr ⟨given, digits, rfl⟩

theorem integerLiteral_integerChars (number : Int) :
    IntegerLiteral (integerChars number) number :=
  integer?_eq_some_iff.mp (integer?_integerChars number)

theorem mem_integerChars {number : Int} {char : Char} (member : char ∈ integerChars number) :
    char = '-' ∨ char.isDigit = true := by
  cases number with
  | ofNat size => exact Or.inr (areDigits_digitsOf size char member)
  | negSucc size =>
      rcases List.mem_cons.mp member with minus | digit
      · exact Or.inl minus
      · exact Or.inr (areDigits_digitsOf (size + 1) char digit)

theorem integerLiteral_digits_iff {digits : List Char} (given : digits ≠ [])
    (all : AreDigits digits) {number : Int} :
    IntegerLiteral digits number ↔ (ofDigits digits : Int) = number := by
  rw [← integer?_eq_some_iff,
    integer?_unsigned (head?_ne_of_digits all rfl) (head?_ne_of_digits all rfl),
    map_natural?_eq_some_iff]
  simp [given, all]

theorem int32?_eq_some_iff {text : List Char} {number : Int32} :
    int32? text = some number ↔ IntegerLiteral text number.toInt := by
  unfold int32?
  rw [Option.bind_eq_some_iff]
  constructor
  · rintro ⟨wide, read, narrowed⟩
    split at narrowed
    · rename_i within
      cases narrowed
      rw [Int32.toInt_ofInt_of_le within.1 (Int.lt_add_one_of_le within.2)]
      exact integer?_eq_some_iff.mp read
    · cases narrowed
  · intro literal
    refine ⟨number.toInt, integer?_eq_some_iff.mpr literal, ?_⟩
    rw [if_pos ⟨number.minValue_le_toInt, number.toInt_le⟩, Int32.ofInt_toInt]

end Underwriting.Text
