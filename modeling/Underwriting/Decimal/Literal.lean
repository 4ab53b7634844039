import Underwriting.Decimal.Basic

/-!
Decimal literals. A plain literal is an optional sign, digits with at most one point among them and
separators `_` anywhere behind the first digit. Digits that no longer fit are dropped: the first of
them rounds what was kept, a half away from zero. A separator behind the last place stands for a
dropped zero as long as the digits in front of that place are a small number. A literal that is not
plain may have an exponent behind the first `e` or `E`. Only a number that an exponent rounds to
zero is a zero with a minus.
-/

namespace Underwriting.Decimal

inductive LiteralError
  | empty
  | secondPoint
  | leadingSeparator
  | unknownCharacter
  | noDigits
  | tooManyDigits
  | roundingOverflow
  | malformedExponent
  | exponentTooLarge (exponent : Nat)
  | valueTooLarge
deriving DecidableEq

def LiteralError.message : LiteralError → String
  | .empty => "Invalid decimal: empty"
  | .secondPoint => "Invalid decimal: two decimal points"
  | .leadingSeparator => "Invalid decimal: must start lead with a number"
  | .unknownCharacter => "Invalid decimal: unknown character"
  | .noDigits => "Invalid decimal: no digits found"
  | .tooManyDigits => "Invalid decimal: overflow from too many digits"
  | .roundingOverflow => "Invalid decimal: overflow from mantissa after rounding"
  | .malformedExponent => "Failed to parse"
  | .exponentTooLarge exponent =>
      "Scale exceeds the maximum precision allowed: " ++ toString exponent ++ " > 28"
  | .valueTooLarge => "Number exceeds maximum value that can be represented."

structure Reading where
  mantissa : Nat
  scale : Nat
  pointSeen : Bool
  digitSeen : Bool
  full : Bool
  mantissa_lt : mantissa < mantissaBound
  scale_le : scale ≤ maxScale

namespace Reading

def start : Reading := ⟨0, 0, false, false, false, mantissaBound_pos, Nat.zero_le _⟩

/-- Rounds the kept digits by the first dropped one. Where that leaves the mantissa, its last digit
is given up. -/
def close (reading : Reading) (digit : Nat) : Except LiteralError Reading :=
  if digit < 5 then
    .ok { reading with full := true }
  else if fits : reading.mantissa + 1 < mantissaBound then
    .ok { reading with mantissa := reading.mantissa + 1, full := true, mantissa_lt := fits }
  else if reading.scale = 0 then
    .error .roundingOverflow
  else
    .ok { reading with
      mantissa := (reading.mantissa + 5) / 10
      scale := reading.scale - 1
      full := true
      mantissa_lt := by
        have := reading.mantissa_lt
        have : (10 : Nat) ≤ mantissaBound := by decide
        omega
      scale_le := by have := reading.scale_le; omega }

def takeDigit (reading : Reading) (digit : Nat) : Except LiteralError Reading :=
  if reading.full then
    .ok reading
  else if reading.pointSeen then
    if fits : reading.scale + 1 ≤ maxScale ∧ reading.mantissa * 10 + digit < mantissaBound then
      .ok { reading with
        mantissa := reading.mantissa * 10 + digit
        scale := reading.scale + 1
        mantissa_lt := fits.2
        scale_le := fits.1 }
    else reading.close digit
  else if fits : reading.mantissa * 10 + digit < mantissaBound then
    .ok { reading with
      mantissa := reading.mantissa * 10 + digit
      mantissa_lt := fits }
  else .error .tooManyDigits

/-- The bound on the digits in front of the last place behind which a separator drops a zero: with
one more digit they stay below `2 ^ 64`, at some distance. -/
def smallBound : Nat := powerOfTwo 64 / 10 - 255

def skipSeparator (reading : Reading) : Reading :=
  if reading.scale = maxScale ∧ reading.mantissa / 10 < smallBound then
    { reading with full := true }
  else reading

def step (reading : Reading) (char : Char) : Except LiteralError Reading :=
  if char.isDigit then
    { reading with digitSeen := true }.takeDigit (Text.digitValue char)
  else if char = '.' then
    if reading.pointSeen then .error .secondPoint else .ok { reading with pointSeen := true }
  else if char = '_' then
    if reading.digitSeen then .ok reading.skipSeparator else .error .leadingSeparator
  else .error .unknownCharacter

def run (reading : Reading) : List Char → Except LiteralError Reading
  | [] => .ok reading
  | char :: rest => (reading.step char).bind fun next => next.run rest

def toDecimal (reading : Reading) (negative : Bool) : Decimal :=
  unsignZero ⟨negative, reading.mantissa, reading.scale, reading.mantissa_lt, reading.scale_le⟩

end Reading

def splitSign : List Char → Bool × List Char
  | '-' :: rest => (true, rest)
  | '+' :: rest => (false, rest)
  | rest => (false, rest)

def readPlain (text : List Char) : Except LiteralError Decimal :=
  if text.isEmpty then .error .empty
  else
    (Reading.start.run (splitSign text).2).bind fun reading =>
      if reading.digitSeen then .ok (reading.toDecimal (splitSign text).1) else .error .noDigits

def isExponentMark (char : Char) : Bool := char == 'e' || char == 'E'

def exponent? (text : List Char) : Option (Bool × Nat) :=
  let sized (negative : Bool) (digits : List Char) :=
    ((Text.unsigned? digits).filter (· < powerOfTwo 32)).map (negative, ·)
  match text with
  | '-' :: digits => sized true digits
  | digits => sized false digits

theorem div_powerOfTen_succ_lt {mantissa : Nat} (below : mantissa < mantissaBound) (count : Nat) :
    mantissa / powerOfTen (count + 1) + 1 < mantissaBound := by
  have tenth : mantissa / powerOfTen (count + 1) ≤ mantissa / 10 := by
    apply Nat.div_le_div_left _ (by decide)
    have := powerOfTen_pos count
    rw [powerOfTen_succ]
    omega
  have : (2 : Nat) ≤ mantissaBound := by decide
  omega

def dropFraction (number : Decimal) : Nat → Decimal
  | 0 => number
  | count + 1 =>
      let kept := number.mantissa / powerOfTen (count + 1)
      let dropped := number.mantissa / powerOfTen count % 10
      ⟨number.negative, if dropped < 5 then kept else kept + 1, number.scale - (count + 1),
        by
          have : kept + 1 < mantissaBound := div_powerOfTen_succ_lt number.mantissa_lt count
          split <;> omega,
        by have := number.scale_le; omega⟩

def scaleDown (number : Decimal) (exponent : Nat) : Decimal :=
  let kept := number.dropFraction (number.scale + exponent - maxScale)
  ⟨kept.negative, kept.mantissa, min (kept.scale + exponent) maxScale, kept.mantissa_lt,
    Nat.min_le_right _ _⟩

def scaleUp (number : Decimal) (exponent : Nat) : Except LiteralError Decimal :=
  if exponent ≤ number.scale then
    .ok ⟨number.negative, number.mantissa, number.scale - exponent, number.mantissa_lt,
      by have := number.scale_le; omega⟩
  else if fits : number.mantissa * powerOfTen (exponent - number.scale) < mantissaBound then
    .ok ⟨number.negative, number.mantissa * powerOfTen (exponent - number.scale), 0, fits,
      Nat.zero_le _⟩
  else .error .valueTooLarge

def readScientific (text : List Char) : Except LiteralError Decimal :=
  (readPlain (text.takeWhile (!isExponentMark ·))).bind fun base =>
    match exponent? (text.dropWhile (!isExponentMark ·)).tail with
    | none => .error .malformedExponent
    | some (negative, exponent) =>
        if maxScale < exponent then .error (.exponentTooLarge exponent)
        else if negative then .ok (base.scaleDown exponent)
        else base.scaleUp exponent

def read (text : List Char) : Except LiteralError Decimal :=
  match readPlain text with
  | .ok number => .ok number
  | .error fault => if text.any isExponentMark then readScientific text else .error fault

def ofText (text : String) : Except LiteralError Decimal := read text.toList

end Underwriting.Decimal
