import Underwriting.Text.Digits

/-!
The tokens of a settings file. Comments run to the end of their line and are left out, and texts
stand in double quotes, where a backslash escapes, or in single quotes, where nothing does. Three
quotes open a text of several lines. Blanks are gaps, since a number or a date is one word or
several words and dots without a gap.
-/

namespace Underwriting.Settings

inductive Token
  | openBracket
  | closeBracket
  | openBrace
  | closeBrace
  | comma
  | equals
  | dot
  | newline
  | gap (blanks : List Char)
  | text (content : List Char) (manyLines : Bool)
  | word (letters : List Char)
  | broken
deriving DecidableEq

def isBlank (char : Char) : Bool := char == ' ' || char == '\t'

def isControl (char : Char) : Bool :=
  (char.toNat < 0x20 && char != '\t') || char.toNat == 0x7f

def startsLine : List Char → Bool
  | '\n' :: _ => true
  | '\r' :: '\n' :: _ => true
  | _ => false

structure Quotes where
  mark : Char
  manyLines : Bool
deriving DecidableEq

namespace Quotes

def escapes (quotes : Quotes) : Bool := quotes.mark == '"'

/-- The end of a text: the marks that still belong to it, and what follows. Up to two marks may
stand before the three that close a text of several lines. -/
def closing? (quotes : Quotes) (text : List Char) : Option (List Char × List Char) :=
  let marks := (text.takeWhile (· == quotes.mark)).length
  if quotes.manyLines then
    if marks < 3 then none
    else
      let kept := min (marks - 3) 2
      some (List.replicate kept quotes.mark, text.drop (kept + 3))
  else if marks = 0 then none
  else some ([], text.drop 1)

def charOf? (digits : List Char) (count : Nat) : Option (Char × Nat) :=
  (Text.ofHexDigits? (digits.take count)).bind fun code =>
    if (digits.take count).length = count ∧ code.isValidChar then
      some (Char.ofNat code, count + 1)
    else none

def escape? : List Char → Option (Char × Nat)
  | 'b' :: _ => some ('\x08', 1)
  | 't' :: _ => some ('\t', 1)
  | 'n' :: _ => some ('\n', 1)
  | 'f' :: _ => some ('\x0c', 1)
  | 'r' :: _ => some ('\r', 1)
  | 'e' :: _ => some ('\x1b', 1)
  | '"' :: _ => some ('"', 1)
  | '\\' :: _ => some ('\\', 1)
  | 'x' :: rest => charOf? rest 2
  | 'u' :: rest => charOf? rest 4
  | 'U' :: rest => charOf? rest 8
  | _ => none

def allows (quotes : Quotes) (char : Char) (rest : List Char) : Bool :=
  !isControl char || (quotes.manyLines && startsLine (char :: rest))

def read (quotes : Quotes) : Nat → Bool → List Char → Option (List Char × List Char)
  | _, _, [] => none
  | taken + 1, trimming, _ :: rest => quotes.read taken trimming rest
  | 0, trimming, char :: rest =>
      if trimming && (isBlank char || startsLine (char :: rest)) then quotes.read 0 true rest
      else
        match quotes.closing? (char :: rest) with
        | some ending => some ending
        | none =>
            if char == '\\' && quotes.escapes then
              if quotes.manyLines && startsLine (rest.dropWhile isBlank) then
                quotes.read 0 true rest
              else
                match escape? rest with
                | some (escaped, length) =>
                    (quotes.read length false rest).map fun (content, behind) =>
                      (escaped :: content, behind)
                | none => none
            else if quotes.allows char rest then
              (quotes.read 0 false rest).map fun (content, behind) => (char :: content, behind)
            else none

end Quotes

def dropLineEnd : List Char → List Char
  | '\n' :: rest => rest
  | '\r' :: '\n' :: rest => rest
  | rest => rest

def readText (mark : Char) (rest : List Char) : Option (Token × List Char) :=
  if rest.take 2 = [mark, mark] then
    ((⟨mark, true⟩ : Quotes).read 0 false (dropLineEnd (rest.drop 2))).map
      fun (content, behind) => (.text content true, behind)
  else
    ((⟨mark, false⟩ : Quotes).read 0 false rest).map
      fun (content, behind) => (.text content false, behind)

def isDelimiter (char : Char) : Bool :=
  isBlank char || ['\n', '\r', '#', '=', '.', ',', '[', ']', '\x7b', '\x7d'].contains char ||
    char == '"' || char == '\''

def scanComment (rest : List Char) : Bool × Nat :=
  let comment := rest.takeWhile (· != '\n')
  let ended := comment.length < rest.length
  let body := if ended && comment.getLast? == some '\r' then comment.dropLast else comment
  (body.all (!isControl ·), comment.length)

namespace Token

def isGap : Token → Bool
  | gap _ => true
  | _ => false

def hasLineEnd : Token → Bool
  | gap blanks => blanks.contains '\n'
  | _ => false

def scan (char : Char) (rest : List Char) : Option Token × Nat :=
  match char with
  | '[' => (some .openBracket, 0)
  | ']' => (some .closeBracket, 0)
  | '\x7b' => (some .openBrace, 0)
  | '\x7d' => (some .closeBrace, 0)
  | ',' => (some .comma, 0)
  | '=' => (some .equals, 0)
  | '.' => (some .dot, 0)
  | '\n' => (some .newline, 0)
  | '\r' => (if startsLine (char :: rest) then none else some .broken, 0)
  | '#' =>
      let (allowed, length) := scanComment rest
      (if allowed then none else some .broken, length)
  | other =>
      if isBlank other then
        let blanks := rest.takeWhile isBlank
        (some (.gap (other :: blanks)), blanks.length)
      else if other == '"' || other == '\'' then
        match readText other rest with
        | some (token, behind) => (some token, rest.length - behind.length)
        | none => (some .broken, rest.length)
      else
        let letters := rest.takeWhile (!isDelimiter ·)
        (some (.word (other :: letters)), letters.length)

def listFrom : Nat → List Char → List Token
  | _, [] => []
  | taken + 1, _ :: rest => listFrom taken rest
  | 0, char :: rest => (scan char rest).1.toList ++ listFrom (scan char rest).2 rest

def ofChars : List Char → List Token
  | '\ufeff' :: rest => listFrom 0 rest
  | chars => listFrom 0 chars

end Token

end Underwriting.Settings
