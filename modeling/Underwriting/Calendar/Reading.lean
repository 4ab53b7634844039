import Underwriting.Calendar.Date
import Underwriting.Number.Power

/-!
Reading dates. A date is year, month and day with `-` between them. A year is up to four digits, or
any number behind a sign; month and day have up to two digits. Blanks may stand before each number
and, in the spaced form, also behind it. The first fault from the left is reported; a date that the
calendar lacks is reported last.
-/

namespace Underwriting.Date

inductive ReadError
  | invalid
  | outOfRange
  | tooShort
  | tooLong
deriving DecidableEq

def ReadError.message : ReadError → String
  | .invalid => "input contains invalid characters"
  | .outOfRange => "input is out of range"
  | .tooShort => "premature end of input"
  | .tooLong => "trailing input"

inductive Form
  | spaced
  | compact
deriving DecidableEq

def Form.skip : Form → List Char → List Char
  | .spaced, text => Text.trimStart text
  | .compact, text => text

def leadingDigits (width : Option Nat) (text : List Char) : List Char :=
  match width with
  | some width => (text.take width).takeWhile Char.isDigit
  | none => text.takeWhile Char.isDigit

def readNumber (width : Option Nat) (text : List Char) :
    Except ReadError (Nat × List Char) :=
  match text with
  | [] => .error .tooShort
  | _ =>
      let digits := leadingDigits width text
      if digits.isEmpty then .error .invalid
      else if Text.ofDigits digits < powerOfTwo 63 then
        .ok (Text.ofDigits digits, text.drop digits.length)
      else .error .outOfRange

def readYear (text : List Char) : Except ReadError (Int × List Char) :=
  let bounded (year : Int) (rest : List Char) : Except ReadError (Int × List Char) :=
    if Int32.minValue.toInt ≤ year ∧ year ≤ Int32.maxValue.toInt then .ok (year, rest)
    else .error .outOfRange
  match Text.trimStart text with
  | '-' :: rest => (readNumber none rest).bind fun (year, rest) => bounded (-(year : Int)) rest
  | '+' :: rest => (readNumber none rest).bind fun (year, rest) => bounded year rest
  | rest => (readNumber (some 4) rest).bind fun (year, rest) => bounded year rest

def readPart (largest : Nat) (text : List Char) : Except ReadError (Nat × List Char) :=
  (readNumber (some 2) (Text.trimStart text)).bind fun (part, rest) =>
    if 1 ≤ part ∧ part ≤ largest then .ok (part, rest) else .error .outOfRange

def readHyphen : List Char → Except ReadError (List Char)
  | [] => .error .tooShort
  | char :: rest => if char = '-' then .ok rest else .error .invalid

def read (form : Form) (text : List Char) : Except ReadError Date := do
  let (year, rest) ← readYear text
  let rest ← readHyphen (form.skip rest)
  let (month, rest) ← readPart 12 rest
  let rest ← readHyphen (form.skip rest)
  let (day, rest) ← readPart 31 rest
  if (form.skip rest).isEmpty then
    match ofParts? year month day with
    | some date => .ok date
    | none => .error .outOfRange
  else .error .tooLong

def ofText (form : Form) (text : String) : Except ReadError Date := read form text.toList

end Underwriting.Date
