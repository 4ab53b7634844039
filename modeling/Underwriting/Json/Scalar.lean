import Underwriting.Json.Token
import Underwriting.Number.Binary64

/-!
Scalars: what a single token stands for. A number without a point and an exponent that fits 64
bits is whole; any other number is read with the digits that 64 bits hold and a power of ten, each
step rounded to the binary format. A number beyond that format breaks the grammar.
-/

namespace Underwriting.Json

inductive Scalar
  | null
  | flag (value : Bool)
  | whole (value : Int)
  | real (value : Dyadic)
  | text (content : List Char)
deriving DecidableEq

namespace NumberLiteral

def significandBound : Nat := powerOfTwo 64

def appendDigits (significand : Nat) : List Char → Nat × List Char
  | [] => (significand, [])
  | digit :: rest =>
      let longer := significand * 10 + Text.digitValue digit
      if longer < significandBound then appendDigits longer rest else (significand, digit :: rest)

def exponentValue : List Char → Int
  | [] => 0
  | _ :: '-' :: digits => -(Text.ofDigits digits : Int)
  | _ :: '+' :: digits => Text.ofDigits digits
  | _ :: digits => Text.ofDigits digits

def largestPower : Nat := 308

def roundedPower (power : Nat) : Rat :=
  (nearestDyadic Binary64.significantBits Binary64.leastExponent (powerOfTen power)).toRat

def rounded (number : Rat) : Rat :=
  (nearestDyadic Binary64.significantBits Binary64.leastExponent number).toRat

/-- A number times a power of ten. Small powers are divided by in up to two steps; behind these
nothing is left of a number of 64 bits. -/
def scaled (significand : Nat) (exponent : Int) : Binary64 :=
  let start := rounded significand
  match exponent with
  | .ofNat power =>
      if significand = 0 then .finite 0
      else if largestPower < power then .infinite false
      else .ofRat (start * roundedPower power)
  | .negSucc below =>
      let power := below + 1
      if power ≤ largestPower then .ofRat (start / roundedPower power)
      else if power ≤ 2 * largestPower then
        .ofRat (rounded (start / roundedPower largestPower) / roundedPower (power - largestPower))
      else .finite 0

def toReal (literal : NumberLiteral) : Binary64 :=
  let (wholePart, wholeLeft) := appendDigits 0 literal.whole
  let (significand, fractionLeft) := appendDigits wholePart literal.fraction
  let taken := literal.fraction.length - fractionLeft.length
  scaled significand (wholeLeft.length - taken + exponentValue literal.exponent)

def whole? (literal : NumberLiteral) : Option Int :=
  let magnitude := Text.ofDigits literal.whole
  if literal.fraction.isEmpty && literal.exponent.isEmpty then
    if literal.negative then
      if 0 < magnitude ∧ magnitude ≤ powerOfTwo 63 then some (-(magnitude : Int)) else none
    else if magnitude < significandBound then some (magnitude : Int)
    else none
  else none

def toScalar (literal : NumberLiteral) : Except Fault Scalar :=
  match literal.whole? with
  | some value => .ok (.whole value)
  | none =>
      match literal.toReal with
      | .finite value => .ok (.real (if literal.negative then -value else value))
      | .infinite _ => .error .malformed

end NumberLiteral

def Token.toScalar : Token → Except Fault Scalar
  | .null => .ok .null
  | .flag value => .ok (.flag value)
  | .number literal => literal.toScalar
  | .text quotation => quotation.content.map .text
  | .openObject => .error .unfit
  | .openList => .error .unfit
  | .brokenWord fault => .error fault
  | .brokenNumber fault => .error fault
  | .closeObject => .error .malformed
  | .closeList => .error .malformed
  | .comma => .error .malformed
  | .colon => .error .malformed
  | .stray => .error .malformed

end Underwriting.Json
