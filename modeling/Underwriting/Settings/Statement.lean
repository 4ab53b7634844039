import Underwriting.Settings.Atom
import Underwriting.Settings.Token

/-!
The statements of a settings file, one a line: a header opens a section, and an assignment gives a
key a value. A value is a scalar, a list or a group of keys with values; inside brackets and braces
a line end is a gap. Of lists and groups inside others only their shape is checked, since no setting
is one.
-/

namespace Underwriting.Settings

inductive Value
  | scalar (scalar : Scalar)
  | list (items : List Scalar)
  | group (members : List (List String × Scalar))
deriving DecidableEq

def Value.asItem : Value → Scalar
  | scalar item => item
  | list _ | group _ => .other

inductive Statement
  | header (name : String)
  | assign (keys : List String) (value : Value)
deriving DecidableEq

inductive Piece
  | openBracket
  | closeBracket
  | openBrace
  | closeBrace
  | comma
  | equals
  | run (tokens : List Token)
deriving DecidableEq

namespace Piece

def ofMark? : Token → Option Piece
  | .openBracket => some openBracket
  | .closeBracket => some closeBracket
  | .openBrace => some openBrace
  | .closeBrace => some closeBrace
  | .comma => some comma
  | .equals => some equals
  | _ => none

def ofRun (tokens : List Token) : List Piece :=
  let tokens := ((tokens.dropWhile Token.isGap).reverse.dropWhile Token.isGap).reverse
  if tokens.isEmpty then [] else [run tokens]

def listOf (taken : List Token) : List Token → List Piece
  | [] => ofRun taken
  | token :: rest =>
      match ofMark? token with
      | some mark => ofRun taken ++ mark :: listOf [] rest
      | none => listOf (taken ++ [token]) rest

end Piece

def isBareKeyChar (char : Char) : Bool := char.isAlphanum || char == '_' || char == '-'

def key? : Token → Option String
  | .word letters => if letters.all isBareKeyChar then some (String.ofList letters) else none
  | .text content false => some (String.ofList content)
  | _ => none

def keysBetweenDots? : List Token → Option (List String)
  | [token] => (key? token).map ([·])
  | token :: .dot :: rest => do return (← key? token) :: (← keysBetweenDots? rest)
  | _ => none

def keys? (run : List Token) : Option (List String) :=
  keysBetweenDots? (run.filter fun token => !token.isGap || token.hasLineEnd)

inductive Frame
  | list (items : List Scalar)
  | group (members : List (List String × Scalar)) (key : List String)

inductive Expected
  | value
  | item
  | key
  | equals
  | separator
  | ending (value : Value)

structure Partial where
  frames : List Frame
  expected : Expected

namespace Partial

def start : Partial := ⟨[], .value⟩

def maxDepth : Nat := 80

def push (reading : Partial) (frame : Frame) (expected : Expected) : Option Partial :=
  if reading.frames.length < maxDepth then some ⟨frame :: reading.frames, expected⟩ else none

def conflict (left right : List String) : Bool := left.isPrefixOf right || right.isPrefixOf left

def give (frames : List Frame) (value : Value) : Option Partial :=
  match frames with
  | [] => some ⟨[], .ending value⟩
  | .list items :: outer => some ⟨.list (value.asItem :: items) :: outer, .separator⟩
  | .group members key :: outer =>
      if members.any fun member => conflict member.1 key then none
      else some ⟨.group ((key, value.asItem) :: members) [] :: outer, .separator⟩

def close (reading : Partial) (piece : Piece) : Option Partial :=
  match reading.frames, piece with
  | .list items :: outer, .closeBracket => give outer (.list items.reverse)
  | .group members _ :: outer, .closeBrace => give outer (.group members.reverse)
  | _, _ => none

def openValue (reading : Partial) (piece : Piece) : Option Partial :=
  match piece with
  | .openBracket => reading.push (.list []) .item
  | .openBrace => reading.push (.group [] []) .key
  | .run tokens => (scalar? tokens).bind fun scalar => give reading.frames (.scalar scalar)
  | _ => none

def take (reading : Partial) (piece : Piece) : Option Partial :=
  match reading.expected, reading.frames, piece with
  | .value, _, _ => reading.openValue piece
  | .item, _, .closeBracket => reading.close .closeBracket
  | .item, _, _ => reading.openValue piece
  | .key, .group members _ :: outer, .run tokens =>
      (keys? tokens).map fun key => ⟨.group members key :: outer, .equals⟩
  | .key, _, .closeBrace => reading.close .closeBrace
  | .equals, _, .equals => some { reading with expected := .value }
  | .separator, .list _ :: _, .comma => some { reading with expected := .item }
  | .separator, .group _ _ :: _, .comma => some { reading with expected := .key }
  | .separator, _, _ => reading.close piece
  | _, _, _ => none

end Partial

def value? (pieces : List Piece) : Option Value := do
  let reading ← pieces.foldlM Partial.take .start
  match reading.expected with
  | .ending value => some value
  | _ => none

namespace Statement

def ofPieces? : List Piece → Option Statement
  | [.openBracket, .run name, .closeBracket] =>
      match keys? name with
      | some [name] => some (.header name)
      | _ => none
  | .run keys :: .equals :: rest => do return .assign (← keys? keys) (← value? rest)
  | _ => none

/-- How many brackets and braces are open behind a token. A bracket that starts a line is that of
a header and does not count. -/
def depthBehind (depth : Nat) (line : List Token) : Token → Nat
  | .openBracket => if line.all Token.isGap then depth else depth + 1
  | .openBrace => depth + 1
  | .closeBracket => depth - 1
  | .closeBrace => depth - 1
  | _ => depth

def groupLines (depth : Nat) (line : List Token) : List Token → List (List Token)
  | [] => [line]
  | .newline :: rest =>
      if depth = 0 then line :: groupLines 0 [] rest
      else groupLines depth (line ++ [.gap ['\n']]) rest
  | token :: rest => groupLines (depthBehind depth line token) (line ++ [token]) rest

def listOfText? (text : String) : Option (List Statement) :=
  let lines := (groupLines 0 [] (Token.ofChars text.toList)).map (Piece.listOf [])
  (lines.filter (!·.isEmpty)).mapM ofPieces?

end Statement

end Underwriting.Settings
