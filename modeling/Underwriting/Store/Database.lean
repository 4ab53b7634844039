import Underwriting.Store.Table
import Underwriting.Text.Split

/-!
Databases: named tables and views, and the state that a rollback of the open transaction restores.
A database may be open for reading only, and what was opened may turn out to be no database.

A view has fixed rows; views that read tables are left out, as are foreign keys and a second
connection. Nothing can therefore keep an open transaction from being committed or rolled back, and the
steps of a transaction are refused only where they stand in the wrong order.
-/

namespace Underwriting.Store

inductive Relation
  | table (table : Table)
  | view (name : String) (columns : List Column) (rows : List Row)
deriving DecidableEq

namespace Relation

def name : Relation → String
  | .table base => base.name
  | .view name _ _ => name

def columns : Relation → List Column
  | .table base => base.columns
  | .view _ columns _ => columns

def rows : Relation → List Row
  | .table base => base.rows
  | .view _ _ rows => rows

def mapTable (change : Table → Table) : Relation → Relation
  | .table base => .table (change base)
  | .view name columns rows => .view name columns rows

def tellsApart (relation : Relation) (column : String) : Bool :=
  match relation with
  | .table base => base.tellsApart column
  | .view _ _ _ => false

end Relation

inductive Access
  | readWrite
  | readOnly
  | unreadable
deriving DecidableEq

def updateFirst (name : String) (change : Table → Table) : List Relation → List Relation
  | [] => []
  | relation :: rest =>
      if sameName relation.name name then relation.mapTable change :: rest
      else relation :: updateFirst name change rest

structure Database where
  relations : List Relation
  saved : Option (List Relation)
  access : Access
deriving DecidableEq

namespace Database

def empty : Database := ⟨[], none, .readWrite⟩

def ofTables (tables : List Table) : Database := ⟨tables.map .table, none, .readWrite⟩

def relation? (database : Database) (name : String) : Option Relation :=
  database.relations.find? fun relation => sameName relation.name name

def source (database : Database) (name : String) : Except Fault Relation :=
  if database.access = .unreadable then .error .notADatabase
  else
    match database.relation? name with
    | some relation => .ok relation
    | none => .error (.noSuchTable name)

def table? (database : Database) (name : String) : Option Table :=
  match database.relation? name with
  | some (.table base) => some base
  | _ => none

def updateTable (database : Database) (name : String) (change : Table → Table) : Database :=
  { database with relations := updateFirst name change database.relations }

def insert (database : Database) (name : String) (assignments : List (String × Value)) :
    Except Fault (Database × Nat) := do
  match ← database.source name with
  | .view view _ _ => .error (.viewModified view)
  | .table base =>
      match base.unknownColumn? assignments with
      | some column => .error (.noColumnNamed name column)
      | none =>
          if database.access = .readOnly then .error .readOnly
          else
            let (changed, count) ← base.insert assignments
            return (database.updateTable name fun _ => changed, count)

def clear (database : Database) (name : String) : Database :=
  database.updateTable name fun table => { table with rows := [] }

def skipInserts (database : Database) (name : String) : Database :=
  database.updateTable name fun table => { table with skipsInserts := true }

def drop (database : Database) (name : String) : Database :=
  { database with
    relations := database.relations.filter fun relation => !sameName relation.name name }

def add (database : Database) (relation : Relation) : Database :=
  match database.relation? relation.name with
  | some _ => database
  | none => { database with relations := database.relations ++ [relation] }

def beginTransaction (database : Database) : Database :=
  { database with saved := some (database.saved.getD database.relations) }

def commit (database : Database) : Database := { database with saved := none }

def rollback (database : Database) : Database :=
  { database with relations := database.saved.getD database.relations, saved := none }

/-! The steps of a transaction as statements, which the store may refuse. -/

def startTransaction (database : Database) : Except Fault Database :=
  match database.saved with
  | none => .ok database.beginTransaction
  | some _ => .error .transactionOpen

def commitTransaction (database : Database) : Except Fault Database :=
  match database.saved with
  | none => .error (.noTransaction "commit")
  | some _ => .ok database.commit

def rollBackTransaction (database : Database) : Except Fault Database :=
  match database.saved with
  | none => .error (.noTransaction "rollback")
  | some _ => .ok database.rollback

end Database

end Underwriting.Store
