import Underwriting.Calendar.Date
import Underwriting.Settings.Token
import Underwriting.Text.Split

/-!
The scalars of a settings file. Settings are texts and whole numbers; truth values, numbers with a
point or an exponent, dates and times are told from nonsense, but no setting is one.
-/

namespace Underwriting.Settings

inductive Scalar
  | text (content : String)
  | whole (number : Int)
  | other
deriving DecidableEq

/-! Numbers. -/

def separatedDigits? (isDigit : Char → Bool) (text : List Char) : Option (List Char) :=
  let parts := Text.splitAt '_' text
  if parts.all fun part => !part.isEmpty && part.all isDigit then some parts.flatten else none

def ofBase (base : Nat) (digits : List Char) : Nat :=
  digits.foldl (fun number digit => number * base + (Text.hexValue? digit).getD 0) 0

def isOctal (char : Char) : Bool := '0' ≤ char && char ≤ '7'

def isBinary (char : Char) : Bool := char == '0' || char == '1'

def decimal? (text : List Char) : Option Nat :=
  (separatedDigits? Char.isDigit text).bind fun digits =>
    match digits with
    | '0' :: _ :: _ => none
    | _ => some (ofBase 10 digits)

/-- A number behind the mark of its base; the mark alone passes for a scalar, but for no number. -/
def ofBase? (base : Nat) (isDigit : Char → Bool) (text : List Char) : Option Scalar :=
  if text.isEmpty then some .other
  else (separatedDigits? isDigit text).map fun digits => .whole (ofBase base digits)

def whole? : List Char → Option Scalar
  | '0' :: 'x' :: digits => ofBase? 16 (fun char => (Text.hexValue? char).isSome) digits
  | '0' :: 'o' :: digits => ofBase? 8 isOctal digits
  | '0' :: 'b' :: digits => ofBase? 2 isBinary digits
  | '-' :: digits => (decimal? digits).map fun number => .whole (-(number : Int))
  | '+' :: digits => (decimal? digits).map fun number => .whole number
  | digits => (decimal? digits).map fun number => .whole number

def dropSign : List Char → List Char
  | '+' :: rest => rest
  | '-' :: rest => rest
  | rest => rest

def isExponentMark (char : Char) : Bool := char == 'e' || char == 'E'

def isFractional (text : List Char) : Bool :=
  let number := dropSign text
  let base := number.takeWhile (!isExponentMark ·)
  let exponent := number.drop base.length
  let (front, fraction) := (base.takeWhile (· != '.'), base.dropWhile (· != '.'))
  let digits (text : List Char) : Bool := (separatedDigits? Char.isDigit text).isSome
  number == "inf".toList || number == "nan".toList ||
    ((decimal? front).isSome && !(fraction.isEmpty && exponent.isEmpty) &&
      (fraction.isEmpty || digits fraction.tail) &&
      (exponent.isEmpty || digits (dropSign exponent.tail)))

/-! Dates and times. -/

def twoDigits? (bound : Nat) : List Char → Option (Nat × List Char)
  | tens :: ones :: rest =>
      if tens.isDigit ∧ ones.isDigit then
        let number := Text.digitValue tens * 10 + Text.digitValue ones
        if number ≤ bound then some (number, rest) else none
      else none
  | _ => none

def dropDate? (text : List Char) : Option (List Char) :=
  match text.splitAt 4 with
  | (year, '-' :: rest) =>
      if year.length = 4 ∧ year.all Char.isDigit then do
        let (month, rest) ← twoDigits? 12 rest
        match rest with
        | '-' :: rest =>
            let (day, rest) ← twoDigits? 31 rest
            if (Date.ofParts? (ofBase 10 year) month day).isSome then some rest else none
        | _ => none
      else none
  | _ => none

def dropFraction? : List Char → Option (List Char)
  | '.' :: digit :: rest => if digit.isDigit then some (rest.dropWhile Char.isDigit) else none
  | '.' :: _ => none
  | rest => some rest

def dropTime? (text : List Char) : Option (List Char) := do
  let (_, rest) ← twoDigits? 23 text
  match rest with
  | ':' :: rest =>
      let (_, rest) ← twoDigits? 59 rest
      match rest with
      | ':' :: rest =>
          let (_, rest) ← twoDigits? 60 rest
          dropFraction? rest
      | rest => some rest
  | _ => none

def isOffset : List Char → Bool
  | [] => true
  | [mark] => mark == 'Z' || mark == 'z'
  | sign :: rest =>
      (sign == '+' || sign == '-') &&
        match twoDigits? 23 rest with
        | some (_, ':' :: rest) => (twoDigits? 59 rest).any fun (_, rest) => rest.isEmpty
        | _ => false

def isMoment (text : List Char) : Bool :=
  match dropDate? text with
  | some [] => true
  | some (mark :: rest) =>
      (mark == 'T' || mark == 't' || mark == ' ') && (dropTime? rest).any isOffset
  | none => (dropTime? text).any (·.isEmpty)

/-! Scalars. -/

def isTruth (text : List Char) : Bool := text == "true".toList || text == "false".toList

def ofWord? (text : List Char) : Option Scalar :=
  (whole? text).or
    (if isTruth text || isFractional text || isMoment text then some .other else none)

def letters? : List Token → Option (List Char)
  | [] => some []
  | .word letters :: rest => (letters? rest).map (letters ++ ·)
  | .dot :: rest => (letters? rest).map ('.' :: ·)
  | .gap blanks :: rest => (letters? rest).map (blanks ++ ·)
  | _ => none

def scalar? : List Token → Option Scalar
  | [.text content _] => some (.text (String.ofList content))
  | run => (letters? run).bind ofWord?

end Underwriting.Settings
