import Underwriting.Calendar.Reading

/-!
Faults of the store: a relation, column or value is not as a statement needs it, or a change would
break a constraint. Faults of the database engine itself have a code with a text of its own.
-/

namespace Underwriting.Store

inductive ValueClass
  | null
  | integer
  | real
  | text
  | blob
deriving DecidableEq

def ValueClass.name : ValueClass → String
  | .null => "Null"
  | .integer => "Integer"
  | .real => "Real"
  | .text => "Text"
  | .blob => "Blob"

inductive Fault
  | noSuchTable (table : String)
  /-- A reference may be reported with its statement and its place there. -/
  | noSuchColumn (reference : String) (place : Option (String × Nat))
  | noColumnNamed (table column : String)
  | notUnique (columns : List String) (primary : Bool)
  | missingValue (column : String)
  | datatypeMismatch
  | full
  | viewModified (view : String)
  | readOnly
  | notADatabase
  | transactionOpen
  | noTransaction (ending : String)
  | columnClass (found : ValueClass) (index : Nat) (name : String)
  | conversion (index : Nat) (cause : Date.ReadError)
deriving DecidableEq

namespace Fault

def message : Fault → String
  | .noSuchTable table => "no such table: " ++ table
  | .noSuchColumn reference none => "no such column: " ++ reference
  | .noSuchColumn reference (some (statement, offset)) =>
      "no such column: " ++ reference ++ " in " ++ statement ++ " at offset " ++ toString offset
  | .noColumnNamed table column => "table " ++ table ++ " has no column named " ++ column
  | .notUnique columns _ => "UNIQUE constraint failed: " ++ ", ".intercalate columns
  | .missingValue column => "NOT NULL constraint failed: " ++ column
  | .datatypeMismatch => "datatype mismatch"
  | .full => "database or disk is full"
  | .viewModified view => "cannot modify " ++ view ++ " because it is a view"
  | .readOnly => "attempt to write a readonly database"
  | .notADatabase => "file is not a database"
  | .transactionOpen => "cannot start a transaction within a transaction"
  | .noTransaction ending => "cannot " ++ ending ++ " - no transaction is active"
  | .columnClass found index name =>
      "Invalid column type " ++ found.name ++ " at index: " ++ toString index ++ ", name: " ++ name
  | .conversion index cause =>
      "Conversion error from type Text at index: " ++ toString index ++ ", " ++ cause.message

def codeMessage? : Fault → Option String
  | .notUnique _ true => some "Error code 1555: A PRIMARY KEY constraint failed"
  | .notUnique _ false => some "Error code 2067: A UNIQUE constraint failed"
  | .missingValue _ => some "Error code 1299: A NOT NULL constraint failed"
  | .datatypeMismatch => some "Error code 20: Data type mismatch"
  | .full => some "Error code 13: Insertion failed because database is full"
  | .readOnly => some "Error code 8: Attempt to write a readonly database"
  | .notADatabase => some "Error code 26: File opened that is not a database file"
  | .columnClass _ _ _ => none
  | .conversion _ _ => none
  | _ => some "Error code 1: SQL error or missing database"

def causes (fault : Fault) : List String :=
  match fault with
  | .conversion _ cause => [cause.message]
  | _ => fault.codeMessage?.toList

end Fault

end Underwriting.Store
