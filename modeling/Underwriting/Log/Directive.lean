import Underwriting.Log.Level
import Underwriting.Number.Binary64
import Underwriting.Pattern.Reading
import Underwriting.Text.Blank
import Underwriting.Text.Bytes
import Underwriting.Text.Letter

/-!
Directives of a log filter. A directive says how much is shown of the topics that start with its
target. In brackets it may name a span, and in braces a field with the value that the field has to
have; then it sets how much is shown inside of the spans that it is about.
-/

namespace Underwriting.Log

inductive Expected
  | flag (value : Bool)
  | integer (value : Int)
  | real (text : List Char)
  | fitting (text : List Char) (pattern : Pattern)
deriving DecidableEq

namespace Expected

def largestUnsigned : Nat := 18446744073709551615

def isReal (text : List Char) : Bool :=
  (Binary64.ofText? (String.ofList text)).isSome || Binary64.namesNoNumber text

def ofChars? (text : List Char) : Option Expected :=
  if text = "true".toList then some (.flag true)
  else if text = "false".toList then some (.flag false)
  else
    match (Text.unsigned? text).filter (· ≤ largestUnsigned), Text.int64? text with
    | some number, _ => some (.integer number)
    | none, some number => some (.integer number.toInt)
    | none, none =>
        if isReal text then some (.real text) else (Pattern.ofChars? text).map (.fitting text)

def toChars : Expected → List Char
  | flag value => (if value then "true" else "false").toList
  | integer value => Text.integerChars value
  | real text => text
  | fitting text _ => text

def isMetBy : Expected → FieldValue → Bool
  | flag value, .flag given => value == given
  | integer value, .number given => value == given
  | fitting _ pattern, .shown text => pattern.fits text.toList
  | fitting _ pattern, .quoted text => pattern.fits text.toList
  | _, _ => false

end Expected

structure FieldTest where
  name : List Char
  expected : Option Expected
deriving DecidableEq

namespace FieldTest

def ofChars? (text : List Char) : Option FieldTest :=
  let name := text.takeWhile (· != '=')
  match text.drop name.length with
  | [] => some ⟨name, none⟩
  | _ :: rest => (Expected.ofChars? (rest.takeWhile (· != '='))).map (⟨name, some ·⟩)

def toChars (test : FieldTest) : List Char :=
  test.name ++ (test.expected.map fun expected => '=' :: expected.toChars).getD []

def isMetBy (test : FieldTest) (fields : List Field) : Bool :=
  fields.any fun field =>
    field.name.toList == test.name && test.expected.all (·.isMetBy field.value)

end FieldTest

structure Directive where
  target : List Char
  span : Option (List Char)
  field : Option FieldTest
  verbosity : Verbosity
deriving DecidableEq

inductive DirectiveFault
  | malformed
  | torn
deriving DecidableEq

namespace Directive

def fieldChars (directive : Directive) : List Char :=
  (directive.field.map fun field => '\x7b' :: field.toChars ++ ['\x7d']).getD []

def toText (directive : Directive) : String :=
  let inner := directive.span.getD [] ++ directive.fieldChars
  let brackets :=
    if directive.span.isNone ∧ directive.field.isNone then [] else '[' :: inner ++ [']']
  let place := directive.target ++ brackets
  if place.isEmpty then directive.verbosity.name
  else String.ofList place ++ "=" ++ directive.verbosity.name

def comparesValue (directive : Directive) : Bool :=
  directive.field.any fun field => field.expected.isSome

def isStanding (directive : Directive) : Bool :=
  directive.span.isNone && !directive.comparesValue

def isAboutSpans (directive : Directive) : Bool :=
  directive.span.isSome || directive.field.isSome

def appliesTo (directive : Directive) (topic : String) : Bool :=
  directive.target.isPrefixOf topic.toList

def appliesToEvent (directive : Directive) (event : Event) : Bool :=
  directive.appliesTo event.topic &&
    directive.field.all fun field =>
      ("message" :: event.fields.map Field.name).any fun name => name.toList == field.name

def isAbout (directive : Directive) (span : Span) : Bool :=
  directive.isAboutSpans && directive.appliesTo span.topic &&
    directive.span.all (· == span.name.toList) &&
    directive.field.all fun field => span.fields.any fun given => given.name.toList == field.name

def holdsInside (directive : Directive) (span : Span) : Bool :=
  directive.isAbout span && directive.field.all (·.isMetBy span.fields)

def concernsSame (directive other : Directive) : Bool :=
  directive.target == other.target && directive.span == other.span &&
    directive.field == other.field

/-- Longer targets come first, then directives that name a field, the last name first. -/
def outranks (directive other : Directive) : Bool :=
  other.target.length < directive.target.length ||
    directive.target.length == other.target.length &&
      match directive.field, other.field with
      | some field, some otherField => otherField.name < field.name
      | some _, none => true
      | none, _ => false

def prefer (earlier later : Directive) : Directive :=
  if earlier.outranks later then earlier else later

def startsTarget (char : Char) : Bool :=
  Text.isLetterOrDigit char || char == '-' || char == ':' || char == '_'

def readVerbosity (text : List Char) : Except DirectiveFault Verbosity :=
  if text.isEmpty then .ok (.upTo .trace)
  else
    match Verbosity.ofChars? text with
    | some verbosity => .ok verbosity
    | none => .error .malformed

def ofName (text : List Char) : Directive :=
  match Verbosity.ofChars? text with
  | some verbosity => ⟨[], none, none, verbosity⟩
  | none => ⟨text, none, none, .upTo .trace⟩

def cut (text : List Char) (start stop : Nat) : Except DirectiveFault (List Char) :=
  match (Text.cutAt? stop text).bind fun (front, _) => Text.cutAt? start front with
  | some (_, part) => .ok part
  | none => .error .torn

def cutBehind (text : List Char) (start : Nat) : Except DirectiveFault (List Char) :=
  cut text start (Text.sizeInBytes text)

def behindBracket (whole : List Char) (position : Nat) (rest : List Char) :
    Except DirectiveFault Verbosity :=
  match rest with
  | [] => .ok (.upTo .trace)
  | '=' :: _ => (cutBehind whole (position + 1)).bind readVerbosity
  | _ => .error .malformed

def insideBrace (whole : List Char) (position : Nat) (rest : List Char) :
    Except DirectiveFault (FieldTest × Verbosity) := do
  let length := (rest.takeWhile (· != '\x7d')).length
  let stop := position + Text.sizeInBytes (rest.take length)
  match rest.drop length with
  | [] => .error .malformed
  | _ :: behind =>
      let part ← cut whole position stop
      match if part.isEmpty then none else FieldTest.ofChars? part with
      | none => .error .malformed
      | some field =>
          match behind with
          | ']' :: behind => return (field, ← behindBracket whole (stop + 2) behind)
          | _ => .error .malformed

def insideBracket (target whole : List Char) (position : Nat) (rest : List Char) :
    Except DirectiveFault Directive := do
  let length := (rest.takeWhile fun char => char != ']' && char != '\x7b').length
  let stop := position + Text.sizeInBytes (rest.take length)
  match rest.drop length with
  | [] => .error .malformed
  | mark :: behind =>
      let name ← cut whole position stop
      if mark = ']' then
        return ⟨target, some name, none, ← behindBracket whole (stop + 1) behind⟩
      else
        let (field, verbosity) ← insideBrace whole (stop + 1) behind
        return ⟨target, if name.isEmpty then none else some name, some field, verbosity⟩

def isMark (char : Char) : Bool := char == '=' || char == '['

/-- A target, brackets and a verbosity behind an equals sign, where any of them may be left out.
Marks are looked for between the blanks around the text, and the parts are cut from the whole text
at the same positions, so a text with blanks in front loses its shape. -/
def ofChars (whole : List Char) : Except DirectiveFault Directive :=
  match Text.trim whole with
  | [] => .error .malformed
  | '[' :: rest => insideBracket [] whole 1 rest
  | first :: rest => do
      let length := ((first :: rest).takeWhile (!isMark ·)).length
      let stop := Text.sizeInBytes ((first :: rest).take length)
      if !startsTarget first then throw .malformed
      match (first :: rest).drop length with
      | [] => return ofName whole
      | mark :: behind =>
          let target ← cut whole 0 stop
          if mark = '[' then insideBracket target whole (stop + 1) behind
          else return ⟨target, none, none, ← (cutBehind whole (stop + 1)).bind readVerbosity⟩

end Directive

end Underwriting.Log
