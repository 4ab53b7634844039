import Underwriting.Store.Table
import Underwriting.Store.Word

/-!
Declarations of columns: a type, and behind it what the column requires. A column may be the key,
may have to hold a value, may hold no value twice, and may have a value of its own for rows that are
given none.

The databases meant here ask no more of a column. REFERENCES, CHECK, COLLATE, GENERATED and an
ON CONFLICT clause are read as the end of the declared type and have no effect, so there are no foreign
keys, no checked, collated or computed values, and no insertion that replaces rows.
-/

namespace Underwriting.Store

def constraintWords : List String :=
  ["PRIMARY", "NOT", "NULL", "UNIQUE", "DEFAULT", "CHECK", "COLLATE", "REFERENCES", "CONSTRAINT",
    "GENERATED", "AS"]

def isConstraintWord (word : Word) : Bool := constraintWords.any word.names

def declaredType (words : List Word) : String :=
  " ".intercalate ((words.takeWhile (!isConstraintWord ·)).map fun word => String.ofList word.text)

def hasConstraint (first second : String) : List Word → Bool
  | one :: two :: rest =>
      (one.names first && two.names second) || hasConstraint first second (two :: rest)
  | _ => false

def literalValue (negative : Bool) : List Word → Value
  | [] => .null
  | word :: rest =>
      if word.names "(" || word.names "+" then literalValue negative rest
      else if word.names "-" then literalValue (!negative) rest
      else word.value negative

def defaultValue (words : List Word) : Value :=
  if words.any (·.names "DEFAULT") then
    literalValue false (words.reverse.takeWhile (!·.names "DEFAULT")).reverse
  else .null

def Column.declare (name declared : String) : Column :=
  let words := declaredWords declared
  { name
    affinity := .ofDeclared (declaredType words)
    required := hasConstraint "NOT" "NULL" words
    unique := words.any (·.names "UNIQUE")
    fallback := defaultValue words }

/-- A single whole number that is the key numbers the rows, unless it is declared to fall. -/
def numbersRows (words : List Word) : Bool :=
  sameName (declaredType words) "INTEGER" && !hasConstraint "KEY" "DESC" words

def isKey (declared : String) : Bool := hasConstraint "PRIMARY" "KEY" (declaredWords declared)

def declaredKey (declarations : List (String × String)) : Key :=
  match declarations.filter fun (_, declared) => isKey declared with
  | [] => .none
  | [(name, declared)] =>
      if numbersRows (declaredWords declared) then .numbering name else .columns [name]
  | keys => .columns (keys.map (·.1))

def keepsNumbers (declarations : List (String × String)) : Bool :=
  declarations.any fun (_, declared) =>
    (declaredWords declared).any (·.names "AUTOINCREMENT")

def Table.declare (name : String) (declarations : List (String × String)) : Table :=
  { name
    columns := declarations.map fun (column, declared) => .declare column declared
    key := declaredKey declarations
    used := if keepsNumbers declarations then some 0 else none
    rows := []
    skipsInserts := false }

end Underwriting.Store
