import Underwriting.Text.Blank

/-!
Whole numbers in decimal digits. Reading takes ASCII digits only and, where a sign is allowed,
one sign in front; every digit counts, so leading zeros are harmless. Main statement: a natural
number reads back from its digits.
-/

namespace Underwriting.Text

def digitsOf (number : Nat) : List Char := Nat.toDigits 10 number

def ofDigits (digits : List Char) : Nat := Nat.ofDigitChars 10 digits 0

def digitValue (char : Char) : Nat := char.toNat - 48

def hexValue? (char : Char) : Option Nat :=
  if char.isDigit then some (char.toNat - 48)
  else if 'a' ≤ char ∧ char ≤ 'f' then some (char.toNat - 87)
  else if 'A' ≤ char ∧ char ≤ 'F' then some (char.toNat - 55)
  else none

def ofHexDigits? (digits : List Char) : Option Nat :=
  (digits.mapM hexValue?).map fun values => values.foldl (fun number digit => number * 16 + digit) 0

def natural? (text : List Char) : Option Nat :=
  if !text.isEmpty && text.all Char.isDigit then some (ofDigits text) else none

def unsigned? : List Char → Option Nat
  | '+' :: digits => natural? digits
  | digits => natural? digits

def integer? : List Char → Option Int
  | '-' :: digits => (natural? digits).map fun number => -(number : Int)
  | '+' :: digits => (natural? digits).map fun number => (number : Int)
  | digits => (natural? digits).map fun number => (number : Int)

def int64? (text : List Char) : Option Int64 :=
  (integer? text).bind fun number =>
    if Int64.minValue.toInt ≤ number ∧ number ≤ Int64.maxValue.toInt then
      some (Int64.ofInt number)
    else none

def int32? (text : List Char) : Option Int32 :=
  (integer? text).bind fun number =>
    if Int32.minValue.toInt ≤ number ∧ number ≤ Int32.maxValue.toInt then
      some (Int32.ofInt number)
    else none

def integerChars : Int → List Char
  | .ofNat number => digitsOf number
  | .negSucc number => '-' :: digitsOf (number + 1)

def integerText (number : Int) : String := String.ofList (integerChars number)

def paddedDigits (width number : Nat) : List Char := (digitsOf number).leftpad width '0'

@[simp] theorem ofDigits_digitsOf (number : Nat) : ofDigits (digitsOf number) = number :=
  Nat.ofDigitChars_ten_toDigits

theorem isDigit_of_mem_digitsOf {number : Nat} {char : Char} (member : char ∈ digitsOf number) :
    char.isDigit = true :=
  Nat.isDigit_of_mem_toDigits (by decide) (by decide) member

theorem digitsOf_ne_nil (number : Nat) : digitsOf number ≠ [] := Nat.toDigits_ne_nil

@[simp] theorem natural?_digitsOf (number : Nat) : natural? (digitsOf number) = some number := by
  have digits : (digitsOf number).all Char.isDigit = true :=
    List.all_eq_true.mpr fun _ member => isDigit_of_mem_digitsOf member
  simp [natural?, digits, digitsOf_ne_nil]

theorem integer?_integerChars (number : Int) : integer? (integerChars number) = some number := by
  cases number with
  | ofNat magnitude =>
      have start : ∃ first rest, digitsOf magnitude = first :: rest :=
        List.exists_cons_of_ne_nil (digitsOf_ne_nil magnitude)
      obtain ⟨first, rest, shape⟩ := start
      have digit : first.isDigit = true :=
        isDigit_of_mem_digitsOf (show first ∈ digitsOf magnitude by simp [shape])
      have read : natural? (first :: rest) = some magnitude := by
        rw [← shape]; exact natural?_digitsOf magnitude
      simp only [integerChars, shape]
      unfold integer?
      split
      · rename_i same; simp only [List.cons.injEq] at same; simp [same.1] at digit
      · rename_i same; simp only [List.cons.injEq] at same; simp [same.1] at digit
      · simp [read]
  | negSucc magnitude =>
      simp [integerChars, integer?]
      omega

end Underwriting.Text
