import Underwriting.Number.Rounding
import Underwriting.Text.Digits

/-!
Numbers of the 64-bit binary format: 53 significant bits down to `2 ^ -1074`, and the two infinities
beyond the largest finite number. Zero has no sign here, since no answer shows one.
-/

namespace Underwriting

inductive Binary64
  | finite (value : Dyadic)
  | infinite (negative : Bool)
deriving DecidableEq

namespace Binary64

def significantBits : Nat := 53

def leastExponent : Int := -1074

def bound : Dyadic := .ofIntWithPrec 1 (-1024)

def ofRat (number : Rat) : Binary64 :=
  let value := nearestDyadic significantBits leastExponent number
  if absDyadic value < bound then .finite value else .infinite (number.num < 0)

def ofInt (number : Int) : Binary64 := ofRat number

structure Literal where
  negative : Bool
  whole : List Char
  fraction : List Char
  exponent : Int
  plain : Bool

namespace Literal

def digits (literal : Literal) : List Char := literal.whole ++ literal.fraction

def scaledExponent (literal : Literal) : Int := literal.exponent - literal.fraction.length

/-- No number of the format needs an exponent beyond this size. -/
def farExponent (literal : Literal) : Int := 1200 + literal.digits.length

/-- The value of the literal, exact unless its exponent is out of all proportion. -/
def value (literal : Literal) : Rat :=
  let far := literal.farExponent
  let magnitude :=
    (Text.ofDigits literal.digits : Rat) * tenPower (max (-far) (min far literal.scaledExponent))
  if literal.negative then -magnitude else magnitude

def parseSign : List Char → Bool × List Char
  | '-' :: rest => (true, rest)
  | '+' :: rest => (false, rest)
  | rest => (false, rest)

def parseFraction : List Char → List Char × List Char
  | '.' :: rest => (rest.takeWhile Char.isDigit, rest.dropWhile Char.isDigit)
  | rest => ([], rest)

def parseExponent? : List Char → Option Int
  | [] => some 0
  | mark :: rest => if mark == 'e' || mark == 'E' then Text.integer? rest else none

def ofChars? (text : List Char) : Option Literal :=
  let (negative, unsigned) := parseSign text
  let whole := unsigned.takeWhile Char.isDigit
  let behindWhole := unsigned.dropWhile Char.isDigit
  let (fraction, rest) := parseFraction behindWhole
  if (whole ++ fraction).isEmpty then none
  else
    (parseExponent? rest).map fun exponent =>
      ⟨negative, whole, fraction, exponent, behindWhole.isEmpty⟩

end Literal

def lowerAscii (text : List Char) : List Char := text.map Char.toLower

def ofText? (text : String) : Option Binary64 :=
  let (negative, unsigned) := Literal.parseSign text.toList
  let name := lowerAscii unsigned
  if name == "inf".toList || name == "infinity".toList then some (.infinite negative)
  else (Literal.ofChars? text.toList).map fun literal => ofRat literal.value

def namesNoNumber (text : List Char) : Bool :=
  lowerAscii (Literal.parseSign text).2 == "nan".toList

def toInt? : Binary64 → Option Int
  | .finite value => if value.toRat.den = 1 then some value.toRat.num else none
  | .infinite _ => none

end Binary64

end Underwriting
