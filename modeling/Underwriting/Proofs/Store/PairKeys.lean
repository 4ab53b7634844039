import Mathlib.Data.List.Find
import Underwriting.Proofs.Store.Insertion

/-!
Tables whose rows are told apart by two columns together. Rows that differ in one of the two never
stand against each other, so whether a row can be inserted is the same before and after such rows were
added; a row that has both values in common with a stored one cannot be inserted. Whole numbers stay
apart in every column that does not turn them into real numbers.
-/

namespace Underwriting.Text

theorem integerText_inj {left right : Int} (same : integerText left = integerText right) :
    left = right := by
  have chars : integerChars left = integerChars right := by
    simpa [integerText] using congrArg String.toList same
  have read := congrArg integer? chars
  simpa [integer?_integerChars] using read

end Underwriting.Text

namespace Underwriting.Store

namespace Value

theorem compareTexts_eq_iff {left right : String} :
    compareTexts left right = .eq ↔ left = right := by
  unfold compareTexts
  split
  · rename_i below
    simp only [reduceCtorEq, false_iff]
    rintro rfl
    exact absurd below (String.lt_irrefl left)
  · simp

/-- Outside columns of real numbers, whole numbers that are apart are kept apart. -/
theorem order_stored_integer {affinity : Affinity} (kept : affinity ≠ .real) {left right : Int64}
    (same : order ((Value.integer left).stored affinity) ((Value.integer right).stored affinity) =
      some .eq) : left = right := by
  have numbers (alike : order (.integer left) (.integer right) = some .eq) : left = right := by
    simpa [order, Int.compare_eq_eq, Int64.toInt_inj] using alike
  cases affinity with
  | text =>
      have texts : Text.integerText left.toInt = Text.integerText right.toInt := by
        simpa [stored, toTextual, order, compareTexts_eq_iff] using same
      exact Int64.toInt_inj.mp (Text.integerText_inj texts)
  | numeric => exact numbers same
  | integer => exact numbers same
  | real => exact absurd rfl kept
  | untyped => exact numbers same

theorem order_self {value : Value} (given : value ≠ .null) : order value value = some .eq := by
  have bytes (content : List UInt8) : compareBytes content content = .eq := by
    induction content with
    | nil => rfl
    | cons first rest ih => simp [compareBytes, UInt8.lt_irrefl, ih]
  cases value with
  | null => exact absurd rfl given
  | integer number => simp [order]
  | real number =>
      cases number with
      | finite number => simp [order, compareReal, compareDyadic]
      | infinite negative => simp [order, compareReal]
  | text content => simp [order, compareTexts_eq_iff]
  | blob content => simp [order, bytes]

end Value

theorem columnIndex?_congr (columns : List Column) {name other : String}
    (same : sameName name other = true) : columnIndex? columns name = columnIndex? columns other := by
  unfold columnIndex?
  congr 1
  funext column
  cases named : sameName column.name name with
  | true => exact (sameName_trans named same).symm
  | false =>
      cases named' : sameName column.name other with
      | false => rfl
      | true =>
          rw [sameName_comm] at same
          rw [sameName_trans named' same] at named
          exact named.symm

namespace Table

def gain (table : Table) (added : List Row) : Table := { table with rows := table.rows ++ added }

@[simp] theorem gain_nil (table : Table) : table.gain [] = table := by simp [gain]

theorem gain_gain (table : Table) (added later : List Row) :
    (table.gain added).gain later = table.gain (added ++ later) := by
  simp [gain]

structure TellsPairsApart (table : Table) (first second : String) : Prop where
  both : ∀ distinction ∈ table.distinctions,
    (∃ column ∈ distinction.columns, sameName column first = true) ∧
      ∃ column ∈ distinction.columns, sameName column second = true
  kept : ∀ column ∈ table.columns,
    (sameName column.name first = true ∨ sameName column.name second = true) →
      column.affinity ≠ .real

theorem TellsPairsApart.not_numbering {table : Table} {first second : String}
    (pairs : table.TellsPairsApart first second) (apart : sameName first second = false)
    (column : String) : table.key ≠ .numbering column := by
  intro numbered
  obtain ⟨⟨_, firstMember, firstSame⟩, _, secondMember, secondSame⟩ :=
    pairs.both ⟨[column], true⟩ (by simp [distinctions, numbered])
  simp only [List.mem_singleton] at firstMember secondMember
  subst firstMember secondMember
  rw [sameName_comm] at firstSame
  rw [sameName_trans firstSame secondSame] at apart
  exact absurd apart (by simp)

theorem numberedRow_of_not_numbering {table : Table}
    (plain : ∀ column, table.key ≠ .numbering column) (row : Row) :
    table.numberedRow row = .ok row := by
  unfold numberedRow
  split
  · rename_i name numbered
    exact absurd numbered (plain name)
  · rfl

theorem addRow_of_not_numbering {table : Table} (plain : ∀ column, table.key ≠ .numbering column)
    (row : Row) : table.addRow row = table.gain [row] := by
  have used : table.usedWith row = table.used := by
    unfold usedWith
    cases keyed : table.key with
    | numbering column => exact absurd keyed (plain column)
    | none => simp
    | columns names => simp
  unfold addRow
  rw [used]
  cases keyed : table.key with
  | numbering column => exact absurd keyed (plain column)
  | none => simp [gain, keyed]
  | columns names => simp [gain, keyed]

theorem conflict?_gain {table : Table} {added : List Row} {row : Row}
    (free : ∀ other ∈ added, ∀ distinction ∈ table.distinctions,
      table.takesValuesOf row other distinction = false) :
    (table.gain added).conflict? row = table.conflict? row := by
  have alike (distinction : Distinction) (member : distinction ∈ table.distinctions) :
      ((table.rows ++ added).any fun other => table.takesValuesOf row other distinction) =
        table.rows.any fun other => table.takesValuesOf row other distinction := by
    have none : (added.any fun other => table.takesValuesOf row other distinction) = false :=
      List.any_eq_false.mpr fun other stored => by simp [free other stored distinction member]
    rw [List.any_append, none, Bool.or_false]
  change table.distinctions.find? _ = table.distinctions.find? _
  exact List.find?_congr alike

theorem insert_eq_gain {table changed : Table} {assignments : List (String × Value)} {count : Nat}
    (plain : ∀ column, table.key ≠ .numbering column)
    (inserted : table.insert assignments = .ok (changed, count)) :
    changed = table.gain (List.replicate count (table.convertedRow assignments)) := by
  rcases insert_ok inserted with ⟨rfl, rfl⟩ | ⟨rfl, row, made, rfl⟩
  · simp
  · rw [numberedRow_of_not_numbering plain] at made
    cases made
    exact addRow_of_not_numbering plain _

@[simp] theorem convertedRow_gain (table : Table) (added : List Row) :
    (table.gain added).convertedRow = table.convertedRow := rfl

@[simp] theorem unknownColumn?_gain (table : Table) (added : List Row) :
    (table.gain added).unknownColumn? = table.unknownColumn? := rfl

@[simp] theorem missingColumn?_gain (table : Table) (added : List Row) :
    (table.gain added).missingColumn? = table.missingColumn? := rfl

theorem count_insert {table : Table} (plain : ∀ column, table.key ≠ .numbering column)
    (assignments : List (String × Value)) :
    (table.insert assignments).map Prod.snd =
      if table.skipsInserts then .ok 0
      else
        match table.missingColumn? (table.convertedRow assignments),
          table.conflict? (table.convertedRow assignments) with
        | some column, _ => .error (.missingValue (table.qualified column.name))
        | none, some distinction =>
            .error (.notUnique (distinction.columns.map table.qualified) distinction.primary)
        | none, none => .ok 1 := by
  unfold insert
  rw [numberedRow_of_not_numbering plain]
  simp only [Except.bind]
  cases table.skipsInserts with
  | true => rfl
  | false =>
      cases table.missingColumn? (table.convertedRow assignments) with
      | some column => rfl
      | none => cases table.conflict? (table.convertedRow assignments) <;> rfl

theorem conflict?_of_insert {table changed : Table} {assignments : List (String × Value)}
    (plain : ∀ column, table.key ≠ .numbering column)
    (inserted : table.insert assignments = .ok (changed, 1)) :
    table.conflict? (table.convertedRow assignments) = none := by
  have counted := count_insert plain assignments
  rw [inserted] at counted
  cases skips : table.skipsInserts with
  | true => simp [skips, Except.map] at counted
  | false =>
      cases conflict : table.conflict? (table.convertedRow assignments) with
      | none => rfl
      | some distinction =>
          cases missing : table.missingColumn? (table.convertedRow assignments) <;>
            simp [skips, conflict, missing, Except.map] at counted

/-- Rows that do not stand against a row have no influence on whether it can be inserted. -/
theorem count_insert_gain {table : Table} {assignments : List (String × Value)} {added : List Row}
    (plain : ∀ column, table.key ≠ .numbering column)
    (free : ∀ other ∈ added, ∀ distinction ∈ table.distinctions,
      table.takesValuesOf (table.convertedRow assignments) other distinction = false) :
    ((table.gain added).insert assignments).map Prod.snd =
      (table.insert assignments).map Prod.snd := by
  have plainGain : ∀ column, (table.gain added).key ≠ .numbering column := plain
  rw [count_insert plain, count_insert plainGain, convertedRow_gain, missingColumn?_gain,
    conflict?_gain free]
  rfl

theorem isSome_columnIndex?_of_known {table : Table} {assignments : List (String × Value)}
    (known : table.unknownColumn? assignments = none) {name : String} {value : Value}
    (assigned : (name, value) ∈ assignments) : (columnIndex? table.columns name).isSome = true := by
  have found := List.find?_eq_none.mp known name
    (List.mem_map.mpr ⟨(name, value), assigned, rfl⟩)
  simpa [Option.isSome_iff_ne_none] using found

theorem valueAt_of_assigned {table : Table} {assignments : List (String × Value)} {name : String}
    {value : Value} {index : Nat}
    (distinct : assignments.Pairwise fun first second => sameName first.1 second.1 = false)
    (assigned : (name, value) ∈ assignments)
    (found : columnIndex? table.columns name = some index) :
    ∃ column ∈ table.columns, sameName column.name name = true ∧
      table.columns[index]? = some column ∧
      (table.convertedRow assignments).valueAt index = value.stored column.affinity := by
  obtain ⟨column, atIndex, named⟩ := columnIndex?_some found
  refine ⟨column, List.mem_of_getElem? atIndex, named, atIndex, ?_⟩
  rw [table.valueAt_convertedRow assignments atIndex, table.findValue_of_mem distinct assigned named]

theorem takesValuesOf_eq_false {table : Table} {row other : Row} {distinction : Distinction}
    {name : String} {index : Nat}
    (looked : ∃ column ∈ distinction.columns, sameName column name = true)
    (found : columnIndex? table.columns name = some index)
    (differ : Value.order (row.valueAt index) (other.valueAt index) ≠ some .eq) :
    table.takesValuesOf row other distinction = false := by
  obtain ⟨column, member, same⟩ := looked
  have indexed : index ∈ distinction.columns.filterMap (columnIndex? table.columns) :=
    List.mem_filterMap.mpr ⟨column, member, (columnIndex?_congr _ same).trans found⟩
  unfold takesValuesOf
  rw [Bool.and_eq_false_iff]
  refine Or.inr (List.all_eq_false.mpr ⟨index, indexed, ?_⟩)
  simpa using differ

theorem TellsPairsApart.takesValuesOf_eq_false {table : Table} {first second name : String}
    (pairs : table.TellsPairsApart first second) (one : name = first ∨ name = second)
    {assignments others : List (String × Value)}
    (distinct : assignments.Pairwise fun one other => sameName one.1 other.1 = false)
    (othersDistinct : others.Pairwise fun one other => sameName one.1 other.1 = false)
    {left right : Int64} (assigned : (name, .integer left) ∈ assignments)
    (othersAssigned : (name, .integer right) ∈ others) (differ : left ≠ right)
    (known : (columnIndex? table.columns name).isSome = true)
    {distinction : Distinction} (member : distinction ∈ table.distinctions) :
    table.takesValuesOf (table.convertedRow assignments) (table.convertedRow others) distinction =
      false := by
  obtain ⟨index, found⟩ := Option.isSome_iff_exists.mp known
  obtain ⟨column, stored, named, atIndex, held⟩ := valueAt_of_assigned distinct assigned found
  obtain ⟨other, _, _, otherAtIndex, otherHeld⟩ :=
    valueAt_of_assigned othersDistinct othersAssigned found
  rw [atIndex] at otherAtIndex
  cases otherAtIndex
  have looked : ∃ column ∈ distinction.columns, sameName column name = true := by
    rcases one with rfl | rfl
    · exact (pairs.both distinction member).1
    · exact (pairs.both distinction member).2
  have kept : column.affinity ≠ .real := by
    apply pairs.kept column stored
    rcases one with rfl | rfl
    · exact Or.inl named
    · exact Or.inr named
  refine Table.takesValuesOf_eq_false looked found ?_
  rw [held, otherHeld]
  exact fun same => differ (Value.order_stored_integer kept same)

def IsKeyedBy (table : Table) (first second : String) : Prop :=
  ∃ one other, table.key = .columns [one, other] ∧
    sameName one first = true ∧ sameName other second = true

theorem IsKeyedBy.not_numbering {table : Table} {first second : String}
    (keyed : table.IsKeyedBy first second) (column : String) : table.key ≠ .numbering column := by
  obtain ⟨one, other, key, _⟩ := keyed
  simp [key]

/-- A row cannot be inserted beside one that holds the same values in the columns of the key. -/
theorem IsKeyedBy.conflict {table : Table} {first second : String}
    (keyed : table.IsKeyedBy first second) {row stored : Row} (member : stored ∈ table.rows)
    (alike : ∀ name, name = first ∨ name = second → ∃ index value,
      columnIndex? table.columns name = some index ∧ value ≠ .null ∧
        row.valueAt index = value ∧ stored.valueAt index = value) :
    (table.conflict? row).isSome = true := by
  obtain ⟨one, other, key, oneSame, otherSame⟩ := keyed
  obtain ⟨firstIndex, firstValue, firstFound, firstGiven, firstHeld, firstStored⟩ :=
    alike first (Or.inl rfl)
  obtain ⟨secondIndex, secondValue, secondFound, secondGiven, secondHeld, secondStored⟩ :=
    alike second (Or.inr rfl)
  have listed : (⟨[one, other], true⟩ : Distinction) ∈ table.distinctions := by
    simp [distinctions, key]
  have taken : table.takesValuesOf row stored ⟨[one, other], true⟩ = true := by
    simp [takesValuesOf, columnIndex?_congr _ oneSame, columnIndex?_congr _ otherSame, firstFound,
      secondFound, firstHeld, firstStored, secondHeld, secondStored, Value.order_self firstGiven,
      Value.order_self secondGiven]
  exact List.find?_isSome.mpr ⟨_, listed, List.any_eq_true.mpr ⟨stored, member, taken⟩⟩

end Table

end Underwriting.Store
