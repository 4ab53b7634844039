import Underwriting.Json.Basic
import Underwriting.Json.Scalar
import Underwriting.Number.Shortest
import Underwriting.Store.Database

/-!
The form in which a database is kept in a file: a heading, and then a line for each table or view,
for each of its columns and for each of its rows. A line is a JSON list of scalars whose first
item says what it is. Whole numbers and null stand for themselves; a value of another class is a
text behind a letter for its class.
-/

namespace Underwriting.Exchange

open Store

inductive SnapshotLine
  | heading
  | startTable (name : String)
  | startView (name : String)
  | addColumn (column : Column)
  | setKey (key : Key)
  | setUsed (number : Int64)
  | skipInserts
  | addRow (row : Row)
deriving DecidableEq

namespace SnapshotLine

def affinities : List (String × Affinity) :=
  [("text", .text), ("numeric", .numeric), ("integer", .integer), ("real", .real),
    ("untyped", .untyped)]

def affinityName (affinity : Affinity) : String :=
  ((affinities.find? fun entry => entry.2 == affinity).map (·.1)).getD ""

def affinity? (name : String) : Option Affinity :=
  (affinities.find? fun entry => entry.1 == name).map (·.2)

def byteChars (byte : UInt8) : List Char :=
  [Json.hexDigit (byte.toNat / 16), Json.hexDigit byte.toNat]

def bytes? : List Char → Option (List UInt8)
  | [] => some []
  | [_] => none
  | high :: low :: rest => do
      let byte ← Text.ofHexDigits? [high, low]
      return UInt8.ofNat byte :: (← bytes? rest)

def realLiteral : Binary64 → List Char
  | .finite value => Binary64.toShortestChars value
  | .infinite negative => (if negative then ['-'] else []) ++ "inf".toList

def valueJson : Value → Json
  | .null => .null
  | .integer number => .number number.toInt
  | .real number => .text (String.ofList ('r' :: realLiteral number))
  | .text content => .text ("t" ++ content)
  | .blob content => .text (String.ofList ('b' :: content.flatMap byteChars))

def value? : Json.Scalar → Option Value
  | .null => some .null
  | .whole number => some (.ofInt number)
  | .text ('r' :: literal) => (Binary64.ofText? (String.ofList literal)).map .real
  | .text ('t' :: content) => some (.text (String.ofList content))
  | .text ('b' :: digits) => (bytes? digits).map .blob
  | _ => none

def keyItems : Key → List Json
  | .none => []
  | .numbering column => [.text "numbering", .text column]
  | .columns names => .text "columns" :: names.map .text

def items : SnapshotLine → List Json
  | .heading => [.text "coverage database", .number 1]
  | .startTable name => [.text "table", .text name]
  | .startView name => [.text "view", .text name]
  | .addColumn column =>
      [.text "column", .text column.name, .text (affinityName column.affinity),
        .flag column.required, .flag column.unique, valueJson column.fallback]
  | .setKey key => .text "key" :: keyItems key
  | .setUsed number => [.text "used", .number number.toInt]
  | .skipInserts => [.text "skips inserts"]
  | .addRow row => .text "row" :: row.map valueJson

def toText (line : SnapshotLine) : String := (Json.list line.items).toText ++ "\n"

def text? : Json.Scalar → Option String
  | .text content => some (String.ofList content)
  | _ => none

def key? : List Json.Scalar → Option Key
  | [] => some .none
  | kind :: names => do
      let kind ← text? kind
      let names ← names.mapM text?
      match kind, names with
      | "numbering", [column] => some (.numbering column)
      | "columns", names => some (.columns names)
      | _, _ => none

def ofItems? : List Json.Scalar → Option SnapshotLine
  | [] => none
  | kind :: rest => do
      match ← text? kind, rest with
      | "coverage database", [.whole 1] => some .heading
      | "table", [name] => (text? name).map .startTable
      | "view", [name] => (text? name).map .startView
      | "column", [name, affinity, .flag required, .flag unique, fallback] => do
          return .addColumn ⟨← text? name, ← affinity? (← text? affinity), required, unique,
            ← value? fallback⟩
      | "key", rest => (key? rest).map .setKey
      | "used", [.whole number] => some (.setUsed (Int64.ofInt number))
      | "skips inserts", [] => some .skipInserts
      | "row", values => (values.mapM value?).map .addRow
      | _, _ => none

def itemsFrom? : List Json.Token → Option (List Json.Scalar)
  | [.closeList] => some []
  | .comma :: token :: rest => do
      let scalar ← token.toScalar.toOption
      return scalar :: (← itemsFrom? rest)
  | _ => none

def ofText? (text : String) : Option SnapshotLine :=
  match Json.Token.ofChars text.toList with
  | .openList :: rest => (itemsFrom? (.comma :: rest)).bind ofItems?
  | _ => none

def ofRelation : Relation → List SnapshotLine
  | .table base =>
      [.startTable base.name] ++ base.columns.map .addColumn ++ [.setKey base.key] ++
        (base.used.map .setUsed).toList ++
        (if base.skipsInserts then [.skipInserts] else []) ++ base.rows.map .addRow
  | .view name columns rows =>
      [.startView name] ++ columns.map .addColumn ++ rows.map .addRow

def addTo? (relations : List Relation) (line : SnapshotLine) : Option (List Relation) :=
  match line, relations with
  | .startTable name, _ => some (.table ⟨name, [], .none, none, [], false⟩ :: relations)
  | .startView name, _ => some (.view name [] [] :: relations)
  | .addColumn column, .table base :: others =>
      some (.table { base with columns := base.columns ++ [column] } :: others)
  | .addColumn column, .view name columns rows :: others =>
      some (.view name (columns ++ [column]) rows :: others)
  | .setKey key, .table base :: others => some (.table { base with key } :: others)
  | .setUsed number, .table base :: others =>
      some (.table { base with used := some number } :: others)
  | .skipInserts, .table base :: others =>
      some (.table { base with skipsInserts := true } :: others)
  | .addRow row, .table base :: others =>
      some (.table { base with rows := base.rows ++ [row] } :: others)
  | .addRow row, .view name columns rows :: others =>
      some (.view name columns (rows ++ [row]) :: others)
  | _, _ => none

end SnapshotLine

def snapshot (database : Database) : String :=
  String.join ((.heading :: database.relations.flatMap SnapshotLine.ofRelation).map
    SnapshotLine.toText)

def ofSnapshot? (text : String) : Option Database := do
  let lines ← ((Text.splitText '\n' text).filter (!·.isEmpty)).mapM SnapshotLine.ofText?
  match lines with
  | .heading :: rest => do
      let relations ← rest.foldlM SnapshotLine.addTo? []
      return ⟨relations.reverse, none, .readWrite⟩
  | _ => none

end Underwriting.Exchange
