import Underwriting.Store.Database

/-!
What an insertion does to a database. A row that is added holds each assigned value as its column
keeps it, also when the key is filled in; everything but the rows of the one table stays as it was,
and an insertion that adds no row changes nothing. Growth by rows of one table composes, so that it
describes any sequence of insertions.
-/

namespace Underwriting.Store

theorem sameName_comm (left right : String) : sameName left right = sameName right left := by
  rw [sameName, sameName, Bool.beq_comm]

theorem sameName_trans {left middle right : String} (first : sameName left middle = true)
    (second : sameName middle right = true) : sameName left right = true := by
  simp only [sameName, beq_iff_eq] at first second ⊢
  exact first.trans second

namespace Value

theorem preferInteger_ne_null {value : Value} (given : value ≠ .null) :
    value.preferInteger ≠ .null := by
  unfold preferInteger
  split
  · split
    · split <;> simp
    · simp
  · exact given

theorem ofNumericText_ne_null (content : String) : ofNumericText content ≠ .null := by
  unfold ofNumericText
  split
  · simp
  · dsimp only
    split <;> split <;> simp

theorem toNumeric_ne_null {value : Value} (given : value ≠ .null) : value.toNumeric ≠ .null := by
  unfold toNumeric
  split
  · exact preferInteger_ne_null (ofNumericText_ne_null _)
  · exact preferInteger_ne_null given

theorem toReal_ne_null {value : Value} (given : value ≠ .null) : value.toReal ≠ .null := by
  unfold toReal
  split
  · simp
  · exact given

theorem toTextual_ne_null {value : Value} (given : value ≠ .null) : value.toTextual ≠ .null := by
  unfold toTextual
  split
  · simp
  · simp
  · exact given

theorem stored_ne_null {value : Value} (given : value ≠ .null) (affinity : Affinity) :
    value.stored affinity ≠ .null := by
  cases affinity with
  | text => exact toTextual_ne_null given
  | numeric => exact toNumeric_ne_null given
  | integer => exact toNumeric_ne_null given
  | real => exact toReal_ne_null (toNumeric_ne_null given)
  | untyped => exact given

end Value

theorem columnIndex?_some {columns : List Column} {name : String} {index : Nat}
    (found : columnIndex? columns name = some index) :
    ∃ column, columns[index]? = some column ∧ sameName column.name name = true := by
  obtain ⟨below, same, _⟩ := List.findIdx?_eq_some_iff_getElem.mp found
  exact ⟨columns[index], List.getElem?_eq_getElem below, same⟩

namespace Table

theorem findValue_of_mem (table : Table) {assignments : List (String × Value)} {name : String}
    {value : Value} {column : Column}
    (distinct : assignments.Pairwise fun first second => sameName first.1 second.1 = false)
    (assigned : (name, value) ∈ assignments) (named : sameName column.name name = true) :
    table.findValue assignments column = value := by
  have hit : sameName name column.name = true := by rwa [sameName_comm]
  have found : assignments.find? (fun assignment => sameName assignment.1 column.name) =
      some (name, value) := by
    induction assignments with
    | nil => simp at assigned
    | cons first rest ih =>
        obtain ⟨apart, others⟩ := List.pairwise_cons.mp distinct
        rcases List.mem_cons.mp assigned with same | later
        · subst first
          simp [hit]
        · have different : sameName first.1 column.name = false := by
            cases clash : sameName first.1 column.name with
            | false => rfl
            | true =>
                have := apart (name, value) later
                rw [sameName_trans clash named] at this
                exact this
          simp [different, ih others later]
  simp [findValue, found]

theorem valueAt_convertedRow (table : Table) (assignments : List (String × Value)) {index : Nat}
    {column : Column} (at_index : table.columns[index]? = some column) :
    (table.convertedRow assignments).valueAt index =
      (table.findValue assignments column).stored column.affinity := by
  simp [Row.valueAt, convertedRow, List.getD_eq_getElem?_getD, at_index]

theorem valueAt_numberedRow {table : Table} {row numbered : Row} {index : Nat}
    (filled : table.numberedRow row = .ok numbered) (given : row.valueAt index ≠ .null) :
    numbered.valueAt index = row.valueAt index := by
  unfold numberedRow at filled
  split at filled
  · rename_i name keyed
    split at filled
    · cases filled
      rfl
    · rename_i keyIndex found
      split at filled
      · rename_i missing
        obtain ⟨number, _, rfl⟩ : ∃ number, table.nextNumber keyIndex = .ok number ∧
            row.set keyIndex (.integer number) = numbered := by
          cases next : table.nextNumber keyIndex with
          | error fault => simp [next, Except.map] at filled
          | ok number => exact ⟨number, rfl, by simpa [next, Except.map] using filled⟩
        have apart : keyIndex ≠ index := by
          rintro rfl
          exact given missing
        simp [Row.valueAt, List.getD_eq_getElem?_getD, List.getElem?_set_ne apart]
      · cases filled
        rfl
      · simp at filled
  · cases filled
    rfl

def Holds (table : Table) (assignments : List (String × Value)) (row : Row) : Prop :=
  ∀ assignment ∈ assignments, ∃ index column,
    columnIndex? table.columns assignment.1 = some index ∧
      table.columns[index]? = some column ∧
      row.valueAt index = assignment.2.stored column.affinity

theorem holds_of_numberedRow {table : Table} {assignments : List (String × Value)} {row : Row}
    (distinct : assignments.Pairwise fun first second => sameName first.1 second.1 = false)
    (given : ∀ assignment ∈ assignments, assignment.2 ≠ .null)
    (known : table.unknownColumn? assignments = none)
    (made : table.numberedRow (table.convertedRow assignments) = .ok row) :
    table.Holds assignments row := by
  intro assignment assigned
  have named : (columnIndex? table.columns assignment.1).isSome = true := by
    have := List.find?_eq_none.mp known assignment.1 (List.mem_map.mpr ⟨assignment, assigned, rfl⟩)
    simpa [Option.isSome_iff_ne_none] using this
  obtain ⟨index, found⟩ := Option.isSome_iff_exists.mp named
  obtain ⟨column, at_index, same⟩ := columnIndex?_some found
  refine ⟨index, column, found, at_index, ?_⟩
  have converted := table.valueAt_convertedRow assignments at_index
  rw [table.findValue_of_mem distinct assigned same] at converted
  rw [← converted]
  apply valueAt_numberedRow made
  rw [converted]
  exact Value.stored_ne_null (given assignment assigned) column.affinity

theorem insert_ok {table changed : Table} {assignments : List (String × Value)} {count : Nat}
    (inserted : table.insert assignments = .ok (changed, count)) :
    (count = 0 ∧ changed = table) ∨
      (count = 1 ∧ ∃ row, table.numberedRow (table.convertedRow assignments) = .ok row ∧
        changed = table.addRow row) := by
  unfold insert at inserted
  cases made : table.numberedRow (table.convertedRow assignments) with
  | error fault => simp [made, Except.bind] at inserted
  | ok row =>
      simp only [made, Except.bind] at inserted
      split at inserted
      · simp only [Except.ok.injEq, Prod.mk.injEq] at inserted
        exact Or.inl ⟨inserted.2.symm, inserted.1.symm⟩
      · split at inserted
        · simp at inserted
        · simp at inserted
        · simp only [Except.ok.injEq, Prod.mk.injEq] at inserted
          exact Or.inr ⟨inserted.2.symm, row, rfl, inserted.1.symm⟩

def SameButRows (table changed : Table) (rows : List Row) : Prop :=
  ∃ used, changed = { table with rows, used }

theorem SameButRows.holds_iff {table changed : Table} {rows : List Row}
    (same : table.SameButRows changed rows) (assignments : List (String × Value)) (row : Row) :
    changed.Holds assignments row ↔ table.Holds assignments row := by
  obtain ⟨used, rfl⟩ := same
  exact Iff.rfl

theorem addRow_sameButRows (table : Table) (row : Row) :
    table.SameButRows (table.addRow row) (table.addRow row).rows :=
  ⟨(table.addRow row).used, rfl⟩

end Table

theorem updateFirst_append {name : String} {front : List Relation} {relation : Relation}
    (change : Table → Table) (apart : ∀ other ∈ front, sameName other.name name = false)
    (named : sameName relation.name name = true) (back : List Relation) :
    updateFirst name change (front ++ relation :: back) =
      front ++ relation.mapTable change :: back := by
  induction front with
  | nil => simp [updateFirst, named]
  | cons first rest ih =>
      have different := apart first (by simp)
      simp only [List.cons_append, updateFirst, different, Bool.false_eq_true, ↓reduceIte]
      rw [ih fun other member => apart other (by simp [member])]

namespace Database

theorem relation?_some {database : Database} {name : String} {relation : Relation}
    (found : database.relation? name = some relation) :
    sameName relation.name name = true ∧ ∃ front back,
      database.relations = front ++ relation :: back ∧
        ∀ other ∈ front, sameName other.name name = false := by
  obtain ⟨named, front, back, split, apart⟩ := List.find?_eq_some_iff_append.mp found
  exact ⟨named, front, back, split, fun other member => by simpa using apart other member⟩

theorem table?_some_iff {database : Database} {name : String} {table : Table} :
    database.table? name = some table ↔ database.relation? name = some (.table table) := by
  unfold table?
  split
  · rename_i base found
    simp [found]
  · rename_i other
    simp only [reduceCtorEq, false_iff]
    exact other table

theorem table?_updateTable {database : Database} {name : String} {table : Table}
    (found : database.table? name = some table) {change : Table → Table}
    (kept : (change table).name = table.name) :
    (database.updateTable name change).table? name = some (change table) := by
  obtain ⟨named, front, back, split, apart⟩ := relation?_some (table?_some_iff.mp found)
  apply table?_some_iff.mpr
  apply List.find?_eq_some_iff_append.mpr
  refine ⟨?_, front, back, ?_, fun other member => by simpa using apart other member⟩
  · change sameName (change table).name name = true
    rwa [kept]
  · simp only [updateTable, split]
    exact updateFirst_append change apart named back

theorem drop_updateTable {database : Database} {name : String} {table : Table}
    (found : database.table? name = some table) {change : Table → Table}
    (kept : (change table).name = table.name) :
    (database.updateTable name change).drop name = database.drop name := by
  obtain ⟨named, front, back, split, apart⟩ := relation?_some (table?_some_iff.mp found)
  simp only [drop, updateTable, split]
  rw [updateFirst_append change apart named back]
  simp only [Relation.name] at named
  simp [Relation.mapTable, Relation.name, kept, named]

theorem updateTable_const {database : Database} {name : String} {table : Table}
    (found : database.table? name = some table) :
    database.updateTable name (fun _ => table) = database := by
  obtain ⟨named, front, back, split, apart⟩ := relation?_some (table?_some_iff.mp found)
  obtain ⟨relations, saved, access⟩ := database
  simp only at split
  subst split
  simp only [updateTable]
  rw [updateFirst_append _ apart named back]
  rfl

theorem insert_of_table {database : Database} {name : String} {table : Table}
    (found : database.table? name = some table)
    (assignments : List (String × Value)) :
    database.insert name assignments =
      if database.access = .unreadable then .error .notADatabase
      else
        match table.unknownColumn? assignments with
        | some column => .error (.noColumnNamed name column)
        | none =>
            if database.access = .readOnly then .error .readOnly
            else (table.insert assignments).map fun (changed, count) =>
              (database.updateTable name fun _ => changed, count) := by
  have sourced : database.source name =
      if database.access = .unreadable then .error .notADatabase else .ok (.table table) := by
    unfold source
    rw [table?_some_iff.mp found]
  unfold insert
  rw [sourced]
  split
  · rfl
  · simp only [bind, Except.bind]
    cases table.unknownColumn? assignments with
    | some column => rfl
    | none =>
        simp only
        split
        · rfl
        · cases table.insert assignments <;> rfl

theorem count_insert_of_table {database : Database} {name : String} {table : Table}
    (found : database.table? name = some table) (assignments : List (String × Value)) :
    (database.insert name assignments).map Prod.snd =
      if database.access = .unreadable then .error .notADatabase
      else
        match table.unknownColumn? assignments with
        | some column => .error (.noColumnNamed name column)
        | none =>
            if database.access = .readOnly then .error .readOnly
            else (table.insert assignments).map Prod.snd := by
  rw [insert_of_table found]
  split
  · rfl
  · cases table.unknownColumn? assignments with
    | some column => rfl
    | none =>
        simp only
        split
        · rfl
        · cases table.insert assignments <;> rfl

theorem updateTable_congr {database : Database} {name : String} {table : Table}
    (found : database.table? name = some table)
    {change other : Table → Table} (same : change table = other table) :
    database.updateTable name change = database.updateTable name other := by
  obtain ⟨named, front, back, split, apart⟩ := relation?_some (table?_some_iff.mp found)
  simp only [updateTable, split]
  rw [updateFirst_append change apart named back, updateFirst_append other apart named back]
  simp only [Relation.mapTable, same]

theorem updateTable_updateTable {database : Database} {name : String} {table : Table}
    (found : database.table? name = some table)
    {change : Table → Table} (kept : (change table).name = table.name) (later : Table → Table) :
    (database.updateTable name change).updateTable name later =
      database.updateTable name fun table => later (change table) := by
  obtain ⟨named, front, back, split, apart⟩ := relation?_some (table?_some_iff.mp found)
  have changedNamed : sameName (Relation.mapTable change (.table table)).name name = true := by
    change sameName (change table).name name = true
    rwa [kept]
  simp only [updateTable, split]
  rw [updateFirst_append change apart named back,
    updateFirst_append later apart changedNamed back,
    updateFirst_append _ apart named back]
  rfl

theorem updateTable_of_no_table {database : Database} {name : String}
    (missing : database.table? name = none) (change : Table → Table) :
    database.updateTable name change = database := by
  have views : ∀ relations : List Relation,
      (∀ table, (relations.find? fun relation => sameName relation.name name) ≠
        some (.table table)) → updateFirst name change relations = relations := by
    intro relations
    induction relations with
    | nil => intro _; rfl
    | cons relation rest ih =>
        intro noTable
        simp only [List.find?_cons] at noTable
        cases named : sameName relation.name name with
        | true =>
            cases relation with
            | table table => simp [named] at noTable
            | view view columns rows => simp [updateFirst, named, Relation.mapTable]
        | false =>
            simp only [named] at noTable
            simp [updateFirst, named, ih noTable]
  have noTable (table : Table) : database.relation? name ≠ some (.table table) := by
    intro found
    rw [table?_some_iff.mpr found] at missing
    exact absurd missing (by simp)
  simp only [updateTable, views database.relations noTable]

/-- A database with more rows in the table of one name and no other difference. -/
structure Grown (name : String) (before after : Database) (added : List Row) : Prop where
  others : after.drop name = before.drop name
  rows : ∀ table, before.table? name = some table → ∃ changed, after.table? name = some changed ∧
    table.SameButRows changed changed.rows ∧ changed.rows.Perm (added ++ table.rows)
  absent : before.table? name = none → added = []
  unchanged : added = [] → after = before

namespace Grown

variable {name : String}

theorem refl (name : String) (database : Database) : Grown name database database [] where
  others := rfl
  rows := fun table found => ⟨table, found, ⟨table.used, rfl⟩, List.Perm.refl _⟩
  absent := fun _ => rfl
  unchanged := fun _ => rfl

theorem trans {first middle last : Database} {added later : List Row}
    (start : Grown name first middle added) (finish : Grown name middle last later) :
    Grown name first last (added ++ later) where
  others := finish.others.trans start.others
  rows := by
    intro table found
    obtain ⟨between, middleFound, ⟨used, sameBetween⟩, betweenRows⟩ := start.rows table found
    obtain ⟨changed, lastFound, ⟨lastUsed, sameLast⟩, lastRows⟩ := finish.rows between middleFound
    refine ⟨changed, lastFound, ⟨lastUsed, ?_⟩, ?_⟩
    · rw [sameLast, sameBetween]
    · have gathered : changed.rows.Perm (later ++ (added ++ table.rows)) :=
        lastRows.trans (betweenRows.append_left later)
      rw [List.append_assoc]
      exact gathered.trans (List.perm_append_comm_assoc later added table.rows)
  absent := by
    intro missing
    have none := start.absent missing
    have same := start.unchanged none
    rw [none, List.nil_append]
    exact finish.absent (by rwa [same])
  unchanged := by
    intro none
    obtain ⟨noneAdded, noneLater⟩ := List.append_eq_nil_iff.mp none
    rw [finish.unchanged noneLater, start.unchanged noneAdded]

theorem saved_eq {before after : Database} {added : List Row}
    (grown : Grown name before after added) : after.saved = before.saved := by
  have same := congrArg Database.saved grown.others
  exact same

theorem access_eq {before after : Database} {added : List Row}
    (grown : Grown name before after added) : after.access = before.access := by
  have same := congrArg Database.access grown.others
  exact same

theorem ne {before after : Database} {row : Row} (grown : Grown name before after [row]) :
    after ≠ before := by
  rintro rfl
  cases found : after.table? name with
  | none => simpa using grown.absent found
  | some table =>
      obtain ⟨other, there, _, rows⟩ := grown.rows table found
      rw [found] at there
      cases there
      simpa using rows.length_eq

theorem row_eq {before after : Database} {first second : Row}
    (grown : Grown name before after [first]) (again : Grown name before after [second]) :
    first = second := by
  cases found : before.table? name with
  | none => simpa using grown.absent found
  | some table =>
      obtain ⟨changed, changedFound, _, rows⟩ := grown.rows table found
      obtain ⟨other, otherFound, _, otherRows⟩ := again.rows table found
      rw [changedFound] at otherFound
      cases otherFound
      have same := (List.perm_append_right_iff table.rows).mp (rows.symm.trans otherRows)
      simpa using same

end Grown

theorem insert_ok {database changed : Database} {name : String}
    {assignments : List (String × Value)} {count : Nat}
    (inserted : database.insert name assignments = .ok (changed, count)) :
    ∃ table after, database.table? name = some table ∧
      table.unknownColumn? assignments = none ∧
      table.insert assignments = .ok (after, count) ∧
      changed = database.updateTable name fun _ => after := by
  unfold insert at inserted
  cases sourced : database.source name with
  | error fault => simp [sourced, bind, Except.bind] at inserted
  | ok relation =>
      have found : database.relation? name = some relation := by
        unfold source at sourced
        split at sourced
        · simp at sourced
        · split at sourced
          · rename_i found
            cases sourced
            exact found
          · simp at sourced
      cases relation with
      | view view columns rows => simp [sourced, bind, Except.bind] at inserted
      | table table =>
          simp only [sourced, bind, Except.bind] at inserted
          split at inserted
          · simp at inserted
          · rename_i known
            split at inserted
            · simp at inserted
            · split at inserted
              · simp at inserted
              · rename_i result made
                simp only [pure, Except.pure, Except.ok.injEq, Prod.mk.injEq] at inserted
                refine ⟨table, result.1, table?_some_iff.mpr found, known, ?_, inserted.1.symm⟩
                rw [made, ← inserted.2]

/-- An insertion of given values grows the table by the rows that it counts: none, or one that holds
the values. -/
theorem grown_of_insert {database changed : Database} {name : String}
    {assignments : List (String × Value)} {count : Nat}
    (distinct : assignments.Pairwise fun first second => sameName first.1 second.1 = false)
    (given : ∀ assignment ∈ assignments, assignment.2 ≠ .null)
    (inserted : database.insert name assignments = .ok (changed, count)) :
    (count = 0 ∧ changed = database) ∨
      (count = 1 ∧ ∃ table row, database.table? name = some table ∧ table.Holds assignments row ∧
        Grown name database changed [row]) := by
  obtain ⟨table, after, found, known, added, rfl⟩ := insert_ok inserted
  rcases Table.insert_ok added with ⟨none, rfl⟩ | ⟨one, row, made, rfl⟩
  · exact Or.inl ⟨none, updateTable_const found⟩
  · refine Or.inr ⟨one, table, row, found, ?_, ?_⟩
    · exact Table.holds_of_numberedRow distinct given known made
    · refine ⟨drop_updateTable found rfl, ?_, ?_, by simp⟩
      · intro other same
        rw [found] at same
        cases same
        exact ⟨table.addRow row, table?_updateTable found rfl, table.addRow_sameButRows row,
          table.addRow_perm row⟩
      · intro missing
        simp [found] at missing

end Database

end Underwriting.Store
