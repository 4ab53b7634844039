import Underwriting.Store.Database

/-!
Statements that read the store. A statement is words with references to columns among them. Before
any row is read its tables are looked up in the order of the statement, and then its references; a
reference that names no column is reported, with its place in the statement unless it belongs to the
condition of a join.
-/

namespace Underwriting.Store

inductive Piece
  | words (text : String)
  | reference (source column : String)
deriving DecidableEq

def Piece.text : Piece → String
  | .words text => text
  | .reference source column => if source.isEmpty then column else source ++ "." ++ column

structure Statement where
  pieces : List Piece

structure Output where
  name : String
  value : Value
deriving DecidableEq

namespace Statement

def text (statement : Statement) : String := String.join (statement.pieces.map Piece.text)

def offset (statement : Statement) (piece : Piece) : Nat :=
  (text ⟨statement.pieces.takeWhile (· != piece)⟩).utf8ByteSize

structure Located where
  index : Nat
  column : Column

def Located.read (located : Located) (row : Row) : Operand :=
  ⟨row.valueAt located.index, some located.column.affinity⟩

def located? (relation : Relation) (column : String) : Option Located := do
  let index ← columnIndex? relation.columns column
  return ⟨index, ← relation.columns[index]?⟩

def Located.output (located : Located) (row : Row) : Output :=
  ⟨located.column.name, row.valueAt located.index⟩

def locate (statement : Statement) (relation : Relation) (source column : String) :
    Except Fault Located :=
  match located? relation column with
  | some located => .ok located
  | none =>
      let piece := Piece.reference source column
      .error (.noSuchColumn piece.text (some (statement.text, statement.offset piece)))

def locateJoined (relation : Relation) (source column : String) : Except Fault Located :=
  match located? relation column with
  | some located => .ok located
  | none => .error (.noSuchColumn (Piece.reference source column).text none)

end Statement

end Underwriting.Store
