import Underwriting.Json.Basic
import Underwriting.Log.Filter
import Underwriting.Text.Quoted

/-!
Log lines. The pretty layout puts the fields of a span behind its name, the compact layout puts the
fields of all spans at the end of the line, and in the structured layout each line is a JSON object.
Only the structured layout reports that a span has ended. The first two may be coloured. Lines carry
no times.
-/

namespace Underwriting.Log

inductive Layout
  | pretty
  | compact
  | structured
deriving DecidableEq

inductive Line
  | text (content : String)
  | record (object : Json)

inductive Style
  | bold
  | dimmed
  | italic
  | level (level : Level)
deriving DecidableEq

def Style.code : Style → String
  | .bold => "1"
  | .dimmed => "2"
  | .italic => "3"
  | .level .error => "31"
  | .level .warn => "33"
  | .level .info => "32"
  | .level .debug => "34"
  | .level .trace => "35"

def styled (coloured : Bool) (style : Style) (text : String) : String :=
  if coloured then "\x1b[" ++ style.code ++ "m" ++ text ++ "\x1b[0m" else text

def valueText : FieldValue → String
  | .shown text => text
  | .quoted text => Text.quotedText text
  | .number value => Text.integerText value
  | .flag value => if value then "true" else "false"

def fieldText (coloured : Bool) (field : Field) : String :=
  styled coloured .italic field.name ++ styled coloured .dimmed "=" ++ valueText field.value

def fieldsText (coloured : Bool) (fields : List Field) : String :=
  " ".intercalate (fields.map (fieldText coloured))

def levelText (coloured : Bool) (level : Level) : String :=
  let label := String.ofList (level.label.toList.leftpad 5 ' ')
  styled coloured (.level level) label ++ " "

def messageText (coloured : Bool) (event : Event) : String :=
  event.message ++ String.join (event.fields.map fun field => " " ++ fieldText coloured field)

def prettySpan (coloured : Bool) (span : Span) : String :=
  let fields :=
    if span.fields.isEmpty then ""
    else
      styled coloured .bold "\x7b" ++ fieldsText coloured span.fields ++
        styled coloured .bold "\x7d"
  styled coloured .bold span.name ++ fields ++ styled coloured .dimmed ":"

def prettyLine (coloured : Bool) (event : Event) (scopes : List Span) : String :=
  let spans := String.join (scopes.map (prettySpan coloured))
  levelText coloured event.level ++ (if scopes.isEmpty then "" else spans ++ " ") ++
    messageText coloured event

def compactSpanFields (coloured : Bool) (span : Span) : String :=
  if span.fields.isEmpty then ""
  else " " ++ styled coloured .dimmed (fieldsText coloured span.fields)

def compactLine (coloured : Bool) (event : Event) (scopes : List Span) : String :=
  let names := String.join (scopes.map fun span => styled coloured .bold span.name ++ ":")
  levelText coloured event.level ++ (if scopes.isEmpty then "" else names ++ " ") ++
    messageText coloured event ++ String.join (scopes.map (compactSpanFields coloured))

def valueJson : FieldValue → Json
  | .shown text => .text text
  | .quoted text => .text text
  | .number value => .number value
  | .flag value => .flag value

def fieldMembers (fields : List Field) : List (String × Json) :=
  fields.map fun field => (field.name, valueJson field.value)

def spanJson (span : Span) : Json :=
  .object (fieldMembers span.fields ++ [("name", .text span.name)])

def structuredLine (level : Level) (message : String) (fields : List Field)
    (innermost : Option Span) (scopes : List Span) : Json :=
  .object ([("level", .text level.label),
    ("fields", .object (("message", .text message) :: fieldMembers fields))] ++
    match innermost with
    | none => []
    | some span => [("span", spanJson span), ("spans", .list (scopes.map spanJson))])

def line? (layout : Layout) (coloured : Bool) : Entry → Option Line
  | .event event scopes =>
      match layout with
      | .pretty => some (.text (prettyLine coloured event scopes ++ "\n"))
      | .compact => some (.text (compactLine coloured event scopes ++ "\n"))
      | .structured =>
          some (.record
            (structuredLine event.level event.message event.fields scopes.getLast? scopes))
  | .closed span scopes =>
      match layout with
      | .structured => some (.record (structuredLine .info "close" [] (some span) scopes))
      | _ => none

def lines (layout : Layout) (coloured : Bool) (filter : Filter) (entries : List Entry) :
    List Line :=
  (filter.apply entries).filterMap (line? layout coloured)

end Underwriting.Log
