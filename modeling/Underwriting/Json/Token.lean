import Underwriting.Text.Digits

/-!
The tokens of a JSON text. A token that is not well formed says what is wrong with it, and so does a
quotation that breaks off; whoever expects something else at its place reports that instead.
-/

namespace Underwriting.Json

inductive Fault
  | malformed
  | unfit
  | incomplete
deriving DecidableEq

inductive Piece
  | char (char : Char)
  | unit (code : Nat)
deriving DecidableEq

structure Quotation where
  pieces : List Piece
  length : Nat
  fault : Option Fault
deriving DecidableEq

namespace Quotation

def broken (fault : Fault) : Quotation := ⟨[], 0, some fault⟩

def cons (piece : Piece) (length : Nat) (quotation : Quotation) : Quotation :=
  { quotation with pieces := piece :: quotation.pieces, length := length + quotation.length }

def escape? : Char → Option Char
  | '"' => some '"'
  | '\\' => some '\\'
  | '/' => some '/'
  | 'b' => some '\x08'
  | 'f' => some '\x0c'
  | 'n' => some '\n'
  | 'r' => some '\r'
  | 't' => some '\t'
  | _ => none

/-- The fault of a unit with fewer than four characters left: as long as there are four bytes they
are taken for digits. -/
def shortUnit (rest : List Char) : Fault :=
  if (String.ofList rest).utf8ByteSize < 4 then .incomplete else .malformed

def scan : List Char → Quotation
  | [] => broken .incomplete
  | '"' :: _ => ⟨[], 1, none⟩
  | '\\' :: 'u' :: first :: second :: third :: fourth :: rest =>
      match Text.ofHexDigits? [first, second, third, fourth] with
      | some code => (scan rest).cons (.unit code) 6
      | none => broken .malformed
  | '\\' :: 'u' :: rest => broken (shortUnit rest)
  | '\\' :: mark :: rest =>
      match escape? mark with
      | some char => (scan rest).cons (.char char) 2
      | none => broken .malformed
  | ['\\'] => broken .incomplete
  | char :: rest =>
      if char.toNat < 0x20 then broken .malformed else (scan rest).cons (.char char) 1

def isLeading (code : Nat) : Bool := 0xd800 ≤ code && code < 0xdc00

def isTrailing (code : Nat) : Bool := 0xdc00 ≤ code && code < 0xe000

def pairedChar (leading trailing : Nat) : Char :=
  Char.ofNat ((leading - 0xd800) * 0x400 + (trailing - 0xdc00) + 0x10000)

def decode (fault : Option Fault) : List Piece → Except Fault (List Char)
  | [] =>
      match fault with
      | none => .ok []
      | some fault => .error fault
  | .char char :: rest => (decode fault rest).map (char :: ·)
  | .unit leading :: .unit trailing :: rest =>
      if isTrailing leading then .error .malformed
      else if isLeading leading then
        if isTrailing trailing then
          (decode fault rest).map (pairedChar leading trailing :: ·)
        else .error .malformed
      else (decode fault (.unit trailing :: rest)).map (Char.ofNat leading :: ·)
  | [.unit code] =>
      if isTrailing code then .error .malformed
      else if isLeading code then .error (fault.getD .malformed)
      else (decode fault []).map (Char.ofNat code :: ·)
  | .unit code :: .char char :: rest =>
      if isTrailing code ∨ isLeading code then .error .malformed
      else (decode fault (.char char :: rest)).map (Char.ofNat code :: ·)

def content (quotation : Quotation) : Except Fault (List Char) :=
  decode quotation.fault quotation.pieces

end Quotation

structure NumberLiteral where
  negative : Bool
  whole : List Char
  fraction : List Char
  exponent : List Char
deriving DecidableEq

namespace NumberLiteral

def length (literal : NumberLiteral) : Nat :=
  (if literal.negative then 1 else 0) + literal.whole.length +
    (if literal.fraction.isEmpty then 0 else literal.fraction.length + 1) +
    literal.exponent.length

def scanDigits (text : List Char) : Except Fault (List Char) :=
  match text.takeWhile Char.isDigit with
  | [] => .error (if text.isEmpty then .incomplete else .malformed)
  | digits => .ok digits

def scanWhole (text : List Char) : Except Fault (List Char) :=
  (scanDigits text).bind fun digits =>
    match digits with
    | '0' :: _ :: _ => .error .malformed
    | _ => .ok digits

def scanFraction : List Char → Except Fault (List Char)
  | '.' :: rest => scanDigits rest
  | _ => .ok []

def isExponentMark (char : Char) : Bool := char == 'e' || char == 'E'

def scanExponent : List Char → Except Fault (List Char)
  | mark :: sign :: rest =>
      if isExponentMark mark then
        if sign = '+' ∨ sign = '-' then (scanDigits rest).map (mark :: sign :: ·)
        else (scanDigits (sign :: rest)).map (mark :: ·)
      else .ok []
  | [mark] => if isExponentMark mark then .error .incomplete else .ok []
  | [] => .ok []

def scanUnsigned (negative : Bool) (text : List Char) : Except Fault NumberLiteral := do
  let whole ← scanWhole text
  let behindWhole := text.drop whole.length
  let fraction ← scanFraction behindWhole
  let behindFraction :=
    if fraction.isEmpty then behindWhole else behindWhole.drop (fraction.length + 1)
  let exponent ← scanExponent behindFraction
  return ⟨negative, whole, fraction, exponent⟩

def scan : List Char → Except Fault NumberLiteral
  | '-' :: rest => scanUnsigned true rest
  | unsigned => scanUnsigned false unsigned

end NumberLiteral

inductive Token
  | openObject
  | closeObject
  | openList
  | closeList
  | comma
  | colon
  | null
  | flag (value : Bool)
  | number (literal : NumberLiteral)
  | text (quotation : Quotation)
  | brokenWord (fault : Fault)
  | brokenNumber (fault : Fault)
  | stray
deriving DecidableEq

namespace Token

def isBlank (char : Char) : Bool :=
  char == ' ' || char == '\n' || char == '\t' || char == '\r'

def wordFault? : List Char → List Char → Option Fault
  | [], _ => none
  | _ :: _, [] => some .incomplete
  | expected :: others, char :: rest =>
      if expected = char then wordFault? others rest else some .malformed

def word (token : Token) (letters rest : List Char) : Token × Nat :=
  match wordFault? letters rest with
  | none => (token, letters.length)
  | some fault => (.brokenWord fault, 0)

def scan (char : Char) (rest : List Char) : Token × Nat :=
  match char with
  | '\x7b' => (.openObject, 0)
  | '\x7d' => (.closeObject, 0)
  | '[' => (.openList, 0)
  | ']' => (.closeList, 0)
  | ',' => (.comma, 0)
  | ':' => (.colon, 0)
  | 'n' => word .null ['u', 'l', 'l'] rest
  | 't' => word (.flag true) ['r', 'u', 'e'] rest
  | 'f' => word (.flag false) ['a', 'l', 's', 'e'] rest
  | '"' =>
      let quotation := Quotation.scan rest
      (.text quotation, quotation.length)
  | other =>
      if other.isDigit || other == '-' then
        match NumberLiteral.scan (other :: rest) with
        | .ok literal => (.number literal, literal.length - 1)
        | .error fault => (.brokenNumber fault, 0)
      else (.stray, 0)

def listFrom : Nat → List Char → List Token
  | _, [] => []
  | skipped + 1, _ :: rest => listFrom skipped rest
  | 0, char :: rest =>
      if isBlank char then listFrom 0 rest
      else (scan char rest).1 :: listFrom (scan char rest).2 rest

def ofChars (text : List Char) : List Token := listFrom 0 text

end Token

end Underwriting.Json
