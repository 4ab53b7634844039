import Underwriting.Store.Fault
import Underwriting.Store.Word

/-!
Tables: columns with their leanings, an optional primary key and rows in the order in which they are
read. An insertion converts each value to its column, fills in what is not given, asks for the
values that a column requires, and refuses a row if a value that tells rows apart is taken. Names of
tables and columns are told apart without case.

An insertion adds its row, is refused or is skipped. Of triggers there is only the one that skips
insertions, `skipsInserts`; triggers that change or read other rows are outside of the databases meant
here.
-/

namespace Underwriting.Store

structure Column where
  name : String
  affinity : Affinity
  required : Bool
  unique : Bool
  fallback : Value
deriving DecidableEq

abbrev Row := List Value

/-- How rows are told apart. A numbering key is a single column of whole numbers that is filled in
when it is not given, and rows are read in its order. -/
inductive Key
  | none
  | numbering (column : String)
  | columns (names : List String)
deriving DecidableEq

structure Table where
  name : String
  columns : List Column
  key : Key
  /-- The largest number used so far, if no number is to be used for a second row. -/
  used : Option Int64
  rows : List Row
  skipsInserts : Bool
deriving DecidableEq

def columnIndex? (columns : List Column) (name : String) : Option Nat :=
  columns.findIdx? fun column => sameName column.name name

def Row.valueAt (row : Row) (index : Nat) : Value := row.getD index .null

structure Distinction where
  columns : List String
  primary : Bool
deriving DecidableEq

def Key.isAlone (key : Key) (column : Column) : Bool :=
  match key with
  | .columns [name] => sameName name column.name
  | _ => false

namespace Table

def singleDistinctions (table : Table) : List Distinction :=
  table.columns.reverse.filterMap fun column =>
    if table.key.isAlone column then some ⟨[column.name], true⟩
    else if column.unique then some ⟨[column.name], false⟩
    else none

/-- What tells rows apart, in the order in which an insertion looks at it. -/
def distinctions (table : Table) : List Distinction :=
  match table.key with
  | .none => table.singleDistinctions
  | .numbering column => ⟨[column], true⟩ :: table.singleDistinctions
  | .columns [_] => table.singleDistinctions
  | .columns names => ⟨names, true⟩ :: table.singleDistinctions

def tellsApart (table : Table) (column : String) : Bool :=
  table.distinctions.any fun distinction =>
    match distinction.columns with
    | [name] => sameName name column
    | _ => false

def takesValuesOf (table : Table) (row other : Row) (distinction : Distinction) : Bool :=
  let indices := distinction.columns.filterMap (columnIndex? table.columns)
  !indices.isEmpty &&
    indices.all fun index =>
      Value.order (row.valueAt index) (other.valueAt index) == some .eq

def conflict? (table : Table) (row : Row) : Option Distinction :=
  table.distinctions.find? fun distinction =>
    table.rows.any fun other => table.takesValuesOf row other distinction

def largestNumber? (rows : List Row) (index : Nat) : Option Int64 :=
  rows.foldl (fun largest row =>
    match row.valueAt index, largest with
    | .integer number, none => some number
    | .integer number, some largest => some (if largest < number then number else largest)
    | _, largest => largest) none

/-- The number after the largest one in use; the first number is one. If numbers are not used a
second time, it also comes after the largest one that was ever used. Without that, the number behind
`Int64.maxValue` is the least one: databases in which an unused number has to be looked for at random
are outside of this model. -/
def nextNumber (table : Table) (index : Nat) : Except Fault Int64 :=
  let next := ((largestNumber? table.rows index).map (· + 1)).getD 1
  match table.used with
  | none => .ok next
  | some used =>
      if used = Int64.maxValue then .error .full
      else .ok (if next ≤ used then used + 1 else next)

def usedWith (table : Table) (row : Row) : Option Int64 :=
  table.used.map fun used =>
    match table.key with
    | .numbering name =>
        match (columnIndex? table.columns name).map row.valueAt with
        | some (.integer number) => if used < number then number else used
        | _ => used
    | _ => used

def isNumbered (table : Table) (column : Column) : Bool :=
  match table.key with
  | .numbering name => sameName name column.name
  | _ => false

def findValue (table : Table) (assignments : List (String × Value)) (column : Column) : Value :=
  match assignments.find? fun assignment => sameName assignment.1 column.name with
  | some assignment => assignment.2
  | none => if table.isNumbered column then .null else column.fallback

def convertedRow (table : Table) (assignments : List (String × Value)) : Row :=
  table.columns.map fun column => (table.findValue assignments column).stored column.affinity

def numberedRow (table : Table) (row : Row) : Except Fault Row :=
  match table.key with
  | .numbering name =>
      match columnIndex? table.columns name with
      | none => .ok row
      | some index =>
          match row.valueAt index with
          | .null => (table.nextNumber index).map fun number => row.set index (.integer number)
          | .integer _ => .ok row
          | _ => .error .datatypeMismatch
  | _ => .ok row

def missingColumn? (table : Table) (row : Row) : Option Column :=
  ((table.columns.zip row).find? fun (column, value) => column.required && value == .null).map
    (·.1)

def qualified (table : Table) (column : String) : String := table.name ++ "." ++ column

def sortsAfter (index : Nat) (row other : Row) : Bool :=
  Value.order (row.valueAt index) (other.valueAt index) == some .lt

def addRow (table : Table) (row : Row) : Table :=
  let rows :=
    match table.key with
    | .numbering name =>
        match columnIndex? table.columns name with
        | some index =>
            table.rows.takeWhile (!sortsAfter index row ·) ++
              row :: table.rows.dropWhile (!sortsAfter index row ·)
        | none => table.rows ++ [row]
    | _ => table.rows ++ [row]
  { table with rows, used := table.usedWith row }

theorem addRow_perm (table : Table) (row : Row) :
    (table.addRow row).rows.Perm (row :: table.rows) := by
  have atEnd : (table.rows ++ [row]).Perm (row :: table.rows) := List.perm_append_singleton row _
  unfold addRow
  cases table.key with
  | none => exact atEnd
  | columns names => exact atEnd
  | numbering name =>
      simp only
      split
      · next index _ =>
          have inserted := @List.perm_middle _ row
            (table.rows.takeWhile (!sortsAfter index row ·))
            (table.rows.dropWhile (!sortsAfter index row ·))
          rwa [List.takeWhile_append_dropWhile] at inserted
      · exact atEnd

def unknownColumn? (table : Table) (assignments : List (String × Value)) : Option String :=
  (assignments.map (·.1)).find? fun name => (columnIndex? table.columns name).isNone

def insert (table : Table) (assignments : List (String × Value)) : Except Fault (Table × Nat) :=
  (table.numberedRow (table.convertedRow assignments)).bind fun row =>
    if table.skipsInserts then .ok (table, 0)
    else
      match table.missingColumn? row, table.conflict? row with
      | some column, _ => .error (.missingValue (table.qualified column.name))
      | none, some distinction =>
          .error (.notUnique (distinction.columns.map table.qualified) distinction.primary)
      | none, none => .ok (table.addRow row, 1)

end Table

end Underwriting.Store
