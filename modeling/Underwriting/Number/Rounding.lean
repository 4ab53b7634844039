import Underwriting.Number.Power

/-!
Rounding rational numbers to a binary grid. A number keeps a given count of significant bits, but no
bit below a least one; a number halfway between two neighbours goes to the one whose last bit is
zero.
-/

namespace Underwriting

def divHalfEven (numerator denominator : Nat) : Nat :=
  let quotient := numerator / denominator
  let double := 2 * (numerator % denominator)
  if double < denominator then quotient
  else if double = denominator ∧ quotient % 2 = 0 then quotient
  else quotient + 1

/-- The `exponent` with `2 ^ exponent ≤ numerator / denominator < 2 ^ (exponent + 1)`. -/
def binaryExponent (numerator denominator : Nat) : Int :=
  let estimate : Int := (numerator.log2 : Int) - denominator.log2
  let reached : Bool :=
    match estimate with
    | .ofNat power => denominator * powerOfTwo power ≤ numerator
    | .negSucc power => denominator ≤ numerator * powerOfTwo (power + 1)
  if reached then estimate else estimate - 1

def countUnits (numerator denominator : Nat) : Int → Nat
  | .ofNat unit => divHalfEven numerator (denominator * powerOfTwo unit)
  | .negSucc unit => divHalfEven (numerator * powerOfTwo (unit + 1)) denominator

def nearestDyadic (bits : Nat) (least : Int) (number : Rat) : Dyadic :=
  if number.num = 0 then 0
  else
    let numerator := number.num.natAbs
    let unit := max (binaryExponent numerator number.den + 1 - bits) least
    let magnitude : Int := countUnits numerator number.den unit
    .ofIntWithPrec (if number.num < 0 then -magnitude else magnitude) (-unit)

def absDyadic (number : Dyadic) : Dyadic := if number < 0 then -number else number

def tenPower : Int → Rat
  | .ofNat exponent => powerOfTen exponent
  | .negSucc exponent => mkRat 1 (powerOfTen (exponent + 1))

end Underwriting
