import Underwriting.Store.Query

/-!
Relations and columns by their names. A name that means nothing has no rows, and a column that is
not there holds null, so that rows can be spoken of without the statement that finds them. A
statement finds its columns if they are there.
-/

namespace Underwriting.Store

theorem bind_eq_ok {ε α β : Type} {first : Except ε α} {next : α → Except ε β} {result : β} :
    first >>= next = .ok result ↔ ∃ value, first = .ok value ∧ next value = .ok result := by
  cases first with
  | error fault => simp [bind, Except.bind]
  | ok value => simp [bind, Except.bind]

theorem Statement.locate_eq_ok {statement : Statement} {relation : Relation} {source column : String}
    {located : Located} :
    statement.locate relation source column = .ok located ↔
      located? relation column = some located := by
  unfold locate
  cases located? relation column <;> simp

theorem Statement.locateJoined_eq_ok {relation : Relation} {source column : String}
    {located : Located} :
    locateJoined relation source column = .ok located ↔
      located? relation column = some located := by
  unfold locateJoined
  cases located? relation column <;> simp

namespace Database

def rowsOf (database : Database) (name : String) : List Row :=
  match database.source name with
  | .ok relation => relation.rows
  | .error _ => []

def located? (database : Database) (name column : String) : Option Statement.Located :=
  match database.source name with
  | .ok relation => Statement.located? relation column
  | .error _ => none

def cell (database : Database) (name column : String) (row : Row) : Operand :=
  match database.located? name column with
  | some located => located.read row
  | none => .bound .null

def output (database : Database) (name column : String) (row : Row) : Output :=
  match database.located? name column with
  | some located => located.output row
  | none => ⟨column, .null⟩

def has (database : Database) (name : String) (columns : List String) : Bool :=
  match database.source name with
  | .ok relation => columns.all fun column => (Statement.located? relation column).isSome
  | .error _ => false

theorem has_iff {database : Database} {name : String} {columns : List String} :
    database.has name columns = true ↔ ∃ relation, database.source name = .ok relation ∧
      ∀ column ∈ columns, ∃ located, Statement.located? relation column = some located := by
  unfold has
  cases database.source name with
  | error fault => simp
  | ok relation => simp [Option.isSome_iff_exists]

theorem has_of_subset {database : Database} {name : String} {columns wanted : List String}
    (known : database.has name columns = true) (subset : wanted ⊆ columns) :
    database.has name wanted = true := by
  obtain ⟨relation, sourced, found⟩ := has_iff.mp known
  exact has_iff.mpr ⟨relation, sourced, fun column member => found column (subset member)⟩

variable {database : Database} {name column : String} {relation : Relation}
  {located : Statement.Located}

theorem rowsOf_eq (sourced : database.source name = .ok relation) :
    database.rowsOf name = relation.rows := by
  simp [rowsOf, sourced]

theorem rowsOf_of_relation (found : database.relation? name = some relation) :
    database.rowsOf name = if database.access = .unreadable then [] else relation.rows := by
  unfold rowsOf source
  rw [found]
  by_cases unreadable : database.access = .unreadable
  · simp [unreadable]
  · simp [unreadable]

theorem cell_eq (sourced : database.source name = .ok relation)
    (found : Statement.located? relation column = some located) (row : Row) :
    database.cell name column row = located.read row := by
  simp [cell, Database.located?, sourced, found]

theorem output_eq (sourced : database.source name = .ok relation)
    (found : Statement.located? relation column = some located) (row : Row) :
    database.output name column row = located.output row := by
  simp [output, Database.located?, sourced, found]

theorem value_output (database : Database) (name column : String) (row : Row) :
    (database.output name column row).value = (database.cell name column row).value := by
  unfold output cell
  cases database.located? name column <;> rfl

theorem has_of_cells {columns : List String} (given : columns ≠ [])
    (held : ∀ column ∈ columns, ∃ row, (database.cell name column row).value ≠ .null) :
    database.has name columns = true := by
  cases sourced : database.source name with
  | error fault =>
      obtain ⟨column, member⟩ := List.exists_mem_of_ne_nil columns given
      obtain ⟨row, some⟩ := held column member
      simp [cell, Database.located?, sourced, Operand.bound] at some
  | ok relation =>
      refine has_iff.mpr ⟨relation, sourced, fun column member => ?_⟩
      obtain ⟨row, some⟩ := held column member
      cases found : Statement.located? relation column with
      | some located => exact ⟨located, rfl⟩
      | none => simp [cell, Database.located?, sourced, found, Operand.bound] at some

end Database

theorem converted_null (affinity : Affinity) : Operand.converted affinity .null = .null := by
  unfold Operand.converted
  cases affinity <;> rfl

theorem order_of_null {left right : Operand} (null : left.value = .null ∨ right.value = .null) :
    left.order right = none := by
  rcases null with first | second
  · simp only [Operand.order, first, converted_null]
    rfl
  · simp only [Operand.order, second, converted_null]
    cases Operand.converted (left.sharedAffinity right) left.value <;> rfl

theorem not_null_of_equals {left right : Operand} (equal : left.equals right = true) :
    left.value ≠ .null ∧ right.value ≠ .null := by
  constructor
  · intro null
    simp [Operand.equals, order_of_null (Or.inl null)] at equal
  · intro null
    simp [Operand.equals, order_of_null (Or.inr null)] at equal

theorem not_null_of_atMost {left right : Operand} (below : left.atMost right = true) :
    left.value ≠ .null ∧ right.value ≠ .null := by
  constructor
  · intro null
    simp [Operand.atMost, order_of_null (Or.inl null)] at below
  · intro null
    simp [Operand.atMost, order_of_null (Or.inr null)] at below

end Underwriting.Store
