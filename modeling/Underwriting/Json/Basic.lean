import Underwriting.Text.Digits

/-!
JSON values and their texts: a compact one without blanks, and one with a line for each member.
Members keep their order. Whole numbers are the only numbers that are written.
-/

namespace Underwriting

inductive Json
  | null
  | flag (value : Bool)
  | number (value : Int)
  | text (content : String)
  | list (items : List Json)
  | object (members : List (String × Json))

namespace Json

def hexDigit (number : Nat) : Char := Nat.digitChar (number % 16)

def escaped (char : Char) : List Char :=
  match char with
  | '"' => ['\\', '"']
  | '\\' => ['\\', '\\']
  | '\x08' => ['\\', 'b']
  | '\x0c' => ['\\', 'f']
  | '\n' => ['\\', 'n']
  | '\r' => ['\\', 'r']
  | '\t' => ['\\', 't']
  | other =>
      if other.toNat < 0x20 then
        ['\\', 'u', '0', '0', hexDigit (other.toNat / 16), hexDigit other.toNat]
      else [other]

def quoted (content : String) : List Char :=
  '"' :: content.toList.flatMap escaped ++ ['"']

def wordOf (value : Bool) : List Char :=
  if value then ['t', 'r', 'u', 'e'] else ['f', 'a', 'l', 's', 'e']

def wordOfNull : List Char := ['n', 'u', 'l', 'l']

mutual

def compact : Json → List Char
  | .null => wordOfNull
  | .flag value => wordOf value
  | .number value => Text.integerChars value
  | .text content => quoted content
  | .list items => '[' :: compactItems items ++ [']']
  | .object members => '\x7b' :: compactMembers members ++ ['\x7d']

def compactItems : List Json → List Char
  | [] => []
  | [item] => compact item
  | item :: next :: rest => compact item ++ ',' :: compactItems (next :: rest)

def compactMembers : List (String × Json) → List Char
  | [] => []
  | [(name, value)] => quoted name ++ ':' :: compact value
  | (name, value) :: next :: rest =>
      quoted name ++ ':' :: compact value ++ ',' :: compactMembers (next :: rest)

end

def lineAt (depth : Nat) : List Char := '\n' :: List.replicate (2 * depth) ' '

mutual

def spacious (depth : Nat) : Json → List Char
  | .null => wordOfNull
  | .flag value => wordOf value
  | .number value => Text.integerChars value
  | .text content => quoted content
  | .list [] => ['[', ']']
  | .list (item :: rest) =>
      '[' :: spaciousItems (depth + 1) (item :: rest) ++ lineAt depth ++ [']']
  | .object [] => ['\x7b', '\x7d']
  | .object (member :: rest) =>
      '\x7b' :: spaciousMembers (depth + 1) (member :: rest) ++ lineAt depth ++ ['\x7d']

def spaciousItems (depth : Nat) : List Json → List Char
  | [] => []
  | [item] => lineAt depth ++ spacious depth item
  | item :: next :: rest =>
      lineAt depth ++ spacious depth item ++ ',' :: spaciousItems depth (next :: rest)

def spaciousMembers (depth : Nat) : List (String × Json) → List Char
  | [] => []
  | [(name, value)] => lineAt depth ++ quoted name ++ [':', ' '] ++ spacious depth value
  | (name, value) :: next :: rest =>
      lineAt depth ++ quoted name ++ [':', ' '] ++ spacious depth value ++
        ',' :: spaciousMembers depth (next :: rest)

end

def toText (value : Json) : String := String.ofList value.compact

def toLines (value : Json) : String := String.ofList (value.spacious 0)

end Json

end Underwriting
