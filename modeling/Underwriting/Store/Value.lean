import Underwriting.Store.Numeral

/-!
Stored values and how they compare. A value is null, a whole number of 64 bits, a real number, a
text or bytes. Columns lean to one class of values by their declared type and convert what they
are given; a comparison converts its operands by the leaning of the columns they come from. Null
compares with nothing; numbers come before texts and texts before bytes, and numbers compare
exactly.
-/

namespace Underwriting.Store

inductive Value
  | null
  | integer (number : Int64)
  | real (number : Binary64)
  | text (content : String)
  | blob (content : List UInt8)
deriving DecidableEq

inductive Affinity
  | text
  | numeric
  | integer
  | real
  | untyped
deriving DecidableEq

namespace Affinity

def isNumeric : Affinity → Bool
  | .numeric => true
  | .integer => true
  | .real => true
  | _ => false

def upperAscii (text : List Char) : List Char := text.map Char.toUpper

def mentions (word : List Char) : List Char → Bool
  | [] => word.isEmpty
  | char :: rest => word.isPrefixOf (char :: rest) || mentions word rest

def ofDeclared (declared : String) : Affinity :=
  let mentioned (word : String) := mentions word.toList (upperAscii declared.toList)
  if mentioned "INT" then .integer
  else if ["CHAR", "CLOB", "TEXT"].any mentioned then .text
  else if declared.isEmpty || mentioned "BLOB" then .untyped
  else if ["REAL", "FLOA", "DOUB"].any mentioned then .real
  else .numeric

end Affinity

namespace Value

def ofInt (number : Int) : Value :=
  if Int64.minValue.toInt ≤ number ∧ number ≤ Int64.maxValue.toInt then
    .integer (Int64.ofInt number)
  else .real (.ofInt number)

def ofNumericText (content : String) : Value :=
  match literal? content with
  | none => .text content
  | some literal =>
      let magnitude : Int := Text.ofDigits literal.whole
      let number := if literal.negative then -magnitude else magnitude
      if literal.plain ∧ Int64.minValue.toInt ≤ number ∧ number ≤ Int64.maxValue.toInt then
        .integer (Int64.ofInt number)
      else .real (realOf literal)

/-- A real number that is whole becomes an integer, the two extremes excepted. -/
def preferInteger : Value → Value
  | .real number =>
      match number.toInt? with
      | some whole =>
          if Int64.minValue.toInt < whole ∧ whole < Int64.maxValue.toInt then
            .integer (Int64.ofInt whole)
          else .real number
      | none => .real number
  | value => value

def toNumeric : Value → Value
  | .text content => (ofNumericText content).preferInteger
  | value => value.preferInteger

def toReal : Value → Value
  | .integer number => .real (.ofInt number.toInt)
  | value => value

def toTextual : Value → Value
  | .integer number => .text (Text.integerText number.toInt)
  | .real number => .text (realText number)
  | value => value

def stored (affinity : Affinity) (value : Value) : Value :=
  match affinity with
  | .text => value.toTextual
  | .numeric => value.toNumeric
  | .integer => value.toNumeric
  | .real => value.toNumeric.toReal
  | .untyped => value

def compareDyadic (left right : Dyadic) : Ordering :=
  if left < right then .lt else if left = right then .eq else .gt

def compareReal : Binary64 → Binary64 → Ordering
  | .finite left, .finite right => compareDyadic left right
  | .finite _, .infinite negative => if negative then .gt else .lt
  | .infinite negative, .finite _ => if negative then .lt else .gt
  | .infinite left, .infinite right =>
      if left = right then .eq else if left then .lt else .gt

def pointOf (number : Int64) : Binary64 := .finite (.ofInt number.toInt)

def compareTexts (left right : String) : Ordering :=
  if left < right then .lt else if left = right then .eq else .gt

def compareBytes : List UInt8 → List UInt8 → Ordering
  | [], [] => .eq
  | [], _ :: _ => .lt
  | _ :: _, [] => .gt
  | left :: lefts, right :: rights =>
      if left < right then .lt else if right < left then .gt else compareBytes lefts rights

def order : Value → Value → Option Ordering
  | .null, _ => none
  | _, .null => none
  | .integer left, .integer right => some (compare left.toInt right.toInt)
  | .integer left, .real right => some (compareReal (pointOf left) right)
  | .real left, .integer right => some (compareReal left (pointOf right))
  | .real left, .real right => some (compareReal left right)
  | .integer _, _ => some .lt
  | .real _, _ => some .lt
  | .text _, .integer _ => some .gt
  | .text _, .real _ => some .gt
  | .text left, .text right => some (compareTexts left right)
  | .text _, .blob _ => some .lt
  | .blob left, .blob right => some (compareBytes left right)
  | .blob _, _ => some .gt

def sortsAtMost (left right : Value) : Bool :=
  match left, right with
  | .null, _ => true
  | _, .null => false
  | _, _ => order left right != some .gt

end Value

structure Operand where
  value : Value
  affinity : Option Affinity

namespace Operand

def bound (value : Value) : Operand := ⟨value, none⟩

def ofInt64 (number : Int64) : Operand := bound (.integer number)

def sharedAffinity (left right : Operand) : Affinity :=
  match left.affinity, right.affinity with
  | some first, some second =>
      if first.isNumeric || second.isNumeric then .numeric else .untyped
  | some affinity, none => affinity
  | none, some affinity => affinity
  | none, none => .untyped

def converted (affinity : Affinity) (value : Value) : Value :=
  if affinity.isNumeric then
    match value with
    | .text content => .ofNumericText content
    | other => other
  else if affinity = .text then value.toTextual
  else value

def order (left right : Operand) : Option Ordering :=
  let affinity := sharedAffinity left right
  Value.order (converted affinity left.value) (converted affinity right.value)

def equals (left right : Operand) : Bool := left.order right == some .eq

def atMost (left right : Operand) : Bool :=
  left.order right == some .lt || left.order right == some .eq

end Operand

end Underwriting.Store
