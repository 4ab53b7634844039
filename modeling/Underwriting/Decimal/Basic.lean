import Underwriting.Number.Power
import Underwriting.Text.Digits

/-!
Exact decimal numbers: a sign, a whole mantissa below `2 ^ 96` and a scale of at most 28, standing
for the signed mantissa over `10 ^ scale`. Numbers of one value may differ in scale, and the scale
is kept; order looks at values alone. A zero may carry a minus, which shows in its text only.
-/

namespace Underwriting

def Decimal.mantissaBound : Nat := powerOfTwo 96

def Decimal.maxScale : Nat := 28

theorem Decimal.mantissaBound_pos : 0 < Decimal.mantissaBound := powerOfTwo_pos 96

structure Decimal where
  negative : Bool
  mantissa : Nat
  scale : Nat
  mantissa_lt : mantissa < Decimal.mantissaBound
  scale_le : scale ≤ Decimal.maxScale
deriving DecidableEq

namespace Decimal

def zero : Decimal := ⟨false, 0, 0, mantissaBound_pos, Nat.zero_le _⟩

def unsignZero (number : Decimal) : Decimal :=
  { number with negative := number.negative && number.mantissa != 0 }

def signedMantissa (number : Decimal) : Int :=
  if number.negative then -(number.mantissa : Int) else number.mantissa

def atMost (left right : Decimal) : Bool :=
  left.signedMantissa * powerOfTen right.scale ≤ right.signedMantissa * powerOfTen left.scale

def sameValue (left right : Decimal) : Bool :=
  left.signedMantissa * powerOfTen right.scale == right.signedMantissa * powerOfTen left.scale

def toChars (number : Decimal) : List Char :=
  let digits := Text.paddedDigits (number.scale + 1) number.mantissa
  let whole := digits.take (digits.length - number.scale)
  let fraction := digits.drop (digits.length - number.scale)
  (if number.negative then ['-'] else []) ++ whole ++
    (if number.scale = 0 then [] else '.' :: fraction)

def toText (number : Decimal) : String := String.ofList number.toChars

instance : ToString Decimal := ⟨toText⟩

theorem unsignZero_of_mantissa_ne_zero {number : Decimal} (nonzero : number.mantissa ≠ 0) :
    number.unsignZero = number := by
  cases number
  simp_all [unsignZero]

theorem signedMantissa_unsignZero (number : Decimal) :
    number.unsignZero.signedMantissa = number.signedMantissa := by
  by_cases zero : number.mantissa = 0 <;> simp [unsignZero, signedMantissa, zero]

end Decimal

end Underwriting
