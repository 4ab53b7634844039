import Underwriting.Number.Binary64

/-!
How the store turns texts into numbers and numbers into texts. A number is computed from at most 64
bits of its digits, and powers of ten are multiplied on one at a time with 64 significant bits each;
the 53 bits of the result are cut from that. A text shows at most 15 significant digits.
-/

namespace Underwriting.Store

def isSpace (char : Char) : Bool := char == ' ' || (0x9 ≤ char.toNat && char.toNat ≤ 0xd)

def stripSpaces (text : List Char) : List Char :=
  ((text.dropWhile isSpace).reverse.dropWhile isSpace).reverse

def literal? (text : String) : Option Binary64.Literal :=
  Binary64.Literal.ofChars? (stripSpaces text.toList)

def extended (number : Rat) : Dyadic := nearestDyadic 64 (-16445) number

def extendedTen (power : Int) : Dyadic := extended (tenPower power)

def timesTen (power : Int) (number : Dyadic) : Dyadic :=
  extended (number.toRat * (extendedTen power).toRat)

/-- Multiplies by `10 ^ exponent` in steps of hundreds, tens and ones of the exponent. -/
def timesTenPower (exponent : Int) (number : Dyadic) : Dyadic :=
  let size := exponent.natAbs
  let step (power : Int) := timesTen (if exponent < 0 then -power else power)
  Nat.repeat (step 1) (size % 10)
    (Nat.repeat (step 10) (size / 10 % 10) (Nat.repeat (step 100) (size / 100) number))

def significandLimit : Nat := (powerOfTwo 64 - 10) / 10

structure Scaled where
  significand : Nat
  exponent : Int

def Scaled.keepWhole (number : Scaled) (digit : Char) : Scaled :=
  if number.significand < significandLimit then
    { number with significand := number.significand * 10 + Text.digitValue digit }
  else { number with exponent := number.exponent + 1 }

def Scaled.keepFraction (number : Scaled) (digit : Char) : Scaled :=
  if number.significand < significandLimit then
    ⟨number.significand * 10 + Text.digitValue digit, number.exponent - 1⟩
  else number

def fillZeros (significand : Nat) : Nat → Scaled
  | 0 => ⟨significand, 0⟩
  | exponent + 1 =>
      if significand < (powerOfTwo 64 - 1) / 10 then fillZeros (significand * 10) exponent
      else ⟨significand, (exponent + 1 : Nat)⟩

def dropZeros (significand : Nat) : Nat → Scaled
  | 0 => ⟨significand, 0⟩
  | places + 1 =>
      if significand % 10 = 0 then dropZeros (significand / 10) places
      else ⟨significand, -(places + 1 : Nat)⟩

def Scaled.balanced (number : Scaled) : Scaled :=
  match number.exponent with
  | .ofNat exponent => fillZeros number.significand exponent
  | .negSucc exponent => dropZeros number.significand (exponent + 1)

def exponentLimit : Int := 10000

def scaledOf (literal : Binary64.Literal) : Scaled :=
  let start : Scaled := ⟨0, max (-exponentLimit) (min exponentLimit literal.exponent)⟩
  literal.fraction.foldl Scaled.keepFraction (literal.whole.foldl Scaled.keepWhole start)

def realOf (literal : Binary64.Literal) : Binary64 :=
  let kept := scaledOf literal
  if kept.significand = 0 then .finite 0
  else
    let number := kept.balanced
    let significand : Dyadic := .ofInt number.significand
    let magnitude :=
      if number.exponent = 0 then significand else timesTenPower number.exponent significand
    .ofRat (if literal.negative then -magnitude.toRat else magnitude.toRat)

def scaleWhile (beyond : Dyadic → Bool) (power : Int) : Nat → Dyadic → Int → Dyadic × Int
  | 0, number, exponent => (number, exponent)
  | fuel + 1, number, exponent =>
      if beyond number then
        scaleWhile beyond power fuel (timesTen power number) (exponent - power)
      else (number, exponent)

/-- Brings a positive number between `10 ^ 17` and `10 ^ 19`, with the exponent of ten that was
taken off. No number of the format needs more steps than allowed here. -/
def normalized (value : Dyadic) : Dyadic × Int :=
  let steps := 64
  if extendedTen 19 ≤ value then
    let (number, exponent) := scaleWhile (extendedTen 119 ≤ ·) (-100) steps value 0
    let (number, exponent) := scaleWhile (extendedTen 29 ≤ ·) (-10) steps number exponent
    scaleWhile (extendedTen 19 ≤ ·) (-1) steps number exponent
  else
    let (number, exponent) := scaleWhile (· < extendedTen (-97)) 100 steps value 0
    let (number, exponent) := scaleWhile (· < extendedTen 7) 10 steps number exponent
    scaleWhile (· < extendedTen 17) 1 steps number exponent

def shownDigits : Nat := 15

def leadingDigits (value : Dyadic) : List Char × Int :=
  let (number, exponent) := normalized value
  let all := Text.digitsOf number.toRat.floor.toNat
  let point : Int := all.length + exponent
  let kept := Text.ofDigits (all.take shownDigits)
  let rounded := if '5' ≤ all.getD shownDigits '0' then kept + 1 else kept
  let digits := Text.digitsOf rounded
  (digits, if shownDigits < digits.length then point + 1 else point)

def withoutTrailingZeros (digits : List Char) : List Char :=
  (digits.reverse.dropWhile (· == '0')).reverse

def fractionChars (digits : List Char) : List Char :=
  '.' :: if digits.isEmpty then ['0'] else digits

def scientificChars (digits : List Char) (exponent : Int) : List Char :=
  digits.take 1 ++ fractionChars (digits.drop 1) ++
    ['e', if exponent < 0 then '-' else '+'] ++ Text.paddedDigits 2 exponent.natAbs

def positionalChars (digits : List Char) : Int → List Char
  | .ofNat 0 => '0' :: fractionChars digits
  | .ofNat point =>
      (digits ++ List.replicate (point - digits.length) '0').take point ++
        fractionChars (digits.drop point)
  | .negSucc gap => '0' :: fractionChars (List.replicate (gap + 1) '0' ++ digits)

def realChars : Binary64 → List Char
  | .infinite negative => (if negative then ['-'] else []) ++ "Inf".toList
  | .finite value =>
      if value = 0 then "0.0".toList
      else
        let (rounded, point) := leadingDigits (absDyadic value)
        let digits := withoutTrailingZeros rounded
        let exponent := point - 1
        (if value < 0 then ['-'] else []) ++
          if exponent < -4 ∨ shownDigits ≤ exponent then scientificChars digits exponent
          else positionalChars digits point

def realText (number : Binary64) : String := String.ofList (realChars number)

end Underwriting.Store
