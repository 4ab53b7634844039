import Underwriting.Store.Value

/-!
The words of a declaration. Blanks stand between words, and parentheses, commas and signs are words
of their own. A text stands in quotes of one of four kinds, where a closing quote that is written
twice stands for itself; the letter `x` in front of a quote makes it bytes in hexadecimal digits.
-/

namespace Underwriting.Store

def sameName (left right : String) : Bool :=
  left.toList.map Char.toLower == right.toList.map Char.toLower

inductive Word
  | plain (text : List Char)
  | quoted (text : List Char)
  | bytes (digits : List Char)
deriving DecidableEq

namespace Word

def names (word : Word) (name : String) : Bool :=
  match word with
  | plain text => sameName (String.ofList text) name
  | _ => false

def text : Word → List Char
  | plain text => text
  | quoted text => text
  | bytes digits => digits

def ofHexadecimal (negative : Bool) (digits : List Char) : Value :=
  match Text.ofHexDigits? digits with
  | none => .null
  | some number =>
      let signed := (Int64.ofNat number).toInt
      .ofInt (if negative then -signed else signed)

def numberValue (negative : Bool) : List Char → Value
  | '0' :: 'x' :: digits => ofHexadecimal negative digits
  | '0' :: 'X' :: digits => ofHexadecimal negative digits
  | text =>
      let digits := text.filter (· != '_')
      .ofNumericText (String.ofList (if negative then '-' :: digits else digits))

def startsNumber (text : List Char) : Bool :=
  text.head?.any fun char => char.isDigit || char == '.'

def byteValues : List Char → List UInt8
  | high :: low :: rest => UInt8.ofNat ((Text.ofHexDigits? [high, low]).getD 0) :: byteValues rest
  | _ => []

def value (negative : Bool) : Word → Value
  | bytes digits => .blob (byteValues digits)
  | quoted text =>
      if negative then .ofNumericText (String.ofList ('-' :: text))
      else .text (String.ofList text)
  | plain text =>
      if startsNumber text then numberValue negative text
      else if (plain text).names "NULL" then .null
      else if (plain text).names "TRUE" then .integer (if negative then -1 else 1)
      else if (plain text).names "FALSE" then .integer 0
      else .text (String.ofList text)

end Word

structure Quote where
  closing : Char
  asBytes : Bool
  /-- The closing quote has been read, and may turn out to be the first of two. -/
  ended : Bool

structure WordScan where
  words : List Word
  word : List Char
  quote : Option Quote

namespace WordScan

def start : WordScan := ⟨[], [], none⟩

def push (scan : WordScan) (word : Word) : WordScan := { scan with words := word :: scan.words }

def keep (scan : WordScan) (char : Char) : WordScan := { scan with word := char :: scan.word }

def close (scan : WordScan) : WordScan :=
  match scan.quote with
  | some quote =>
      let text := scan.word.reverse
      ⟨(if quote.asBytes then .bytes text else .quoted text) :: scan.words, [], none⟩
  | none =>
      if scan.word.isEmpty then scan else ⟨.plain scan.word.reverse :: scan.words, [], none⟩

def closingQuote? : Char → Option Char
  | '\'' => some '\''
  | '"' => some '"'
  | '\x60' => some '\x60'
  | '[' => some ']'
  | _ => none

def isBeforeExponent : List Char → Bool
  | 'e' :: rest => Word.startsNumber rest.reverse
  | 'E' :: rest => Word.startsNumber rest.reverse
  | _ => false

def takeOutside (scan : WordScan) (char : Char) : WordScan :=
  if isSpace char then scan.close
  else if char == '(' || char == ')' || char == ',' then scan.close.push (.plain [char])
  else if (char == '+' || char == '-') && !isBeforeExponent scan.word then
    scan.close.push (.plain [char])
  else
    match closingQuote? char with
    | none => scan.keep char
    | some closing =>
        if closing = '\'' ∧ (scan.word = ['x'] ∨ scan.word = ['X']) then
          { scan with word := [], quote := some ⟨closing, true, false⟩ }
        else { scan.close with quote := some ⟨closing, false, false⟩ }

def take (scan : WordScan) (char : Char) : WordScan :=
  match scan.quote with
  | none => scan.takeOutside char
  | some quote =>
      if quote.ended then
        if char = quote.closing ∧ char ≠ ']' then
          { scan.keep char with quote := some { quote with ended := false } }
        else scan.close.takeOutside char
      else if char = quote.closing then { scan with quote := some { quote with ended := true } }
      else scan.keep char

end WordScan

def declaredWords (declared : String) : List Word :=
  (declared.toList.foldl WordScan.take .start).close.words.reverse

end Underwriting.Store
