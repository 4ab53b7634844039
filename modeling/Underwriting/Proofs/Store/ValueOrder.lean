import Mathlib.Data.List.Lex
import Mathlib.Data.Rat.Cast.Order
import Mathlib.Data.String.Basic
import Mathlib.Data.Sum.Order
import Mathlib.Order.WithBot
import Underwriting.Store.Search

/-!
Values in the order in which rows are sorted. Each value has a key in a linear order, and a value
sorts behind another exactly if its key is greater. Since sorting keeps the order of rows that are
alike, rows may be left out before or after it.
-/

namespace Underwriting.Store

def numberKey : Binary64 → WithBot (WithTop ℚ)
  | .infinite true => ⊥
  | .infinite false => ((⊤ : WithTop ℚ) : WithBot (WithTop ℚ))
  | .finite value => ((value.toRat : WithTop ℚ) : WithBot (WithTop ℚ))

theorem compareDyadic_ne_gt_iff (left right : Dyadic) :
    Value.compareDyadic left right ≠ .gt ↔ left.toRat ≤ right.toRat := by
  rw [Dyadic.toRat_le_toRat_iff]
  unfold Value.compareDyadic
  split
  · rename_i below
    simp only [ne_eq, reduceCtorEq, not_false_eq_true, true_iff]
    exact Std.le_of_lt below
  · rename_i notBelow
    split
    · rename_i same
      simp [same]
    · rename_i apart
      simp only [ne_eq, not_true_eq_false, false_iff]
      intro atMost
      exact apart (Dyadic.le_antisymm atMost (Dyadic.not_le.mp notBelow))

theorem compareReal_ne_gt_iff (left right : Binary64) :
    Value.compareReal left right ≠ .gt ↔ numberKey left ≤ numberKey right := by
  cases left with
  | finite left =>
      cases right with
      | finite right => simp [Value.compareReal, numberKey, compareDyadic_ne_gt_iff]
      | infinite negative => cases negative <;> simp [Value.compareReal, numberKey]
  | infinite leftNegative =>
      cases right with
      | finite right => cases leftNegative <;> simp [Value.compareReal, numberKey]
      | infinite rightNegative =>
          cases leftNegative <;> cases rightNegative <;> simp [Value.compareReal, numberKey]

theorem numberKey_pointOf (number : Int64) :
    numberKey (Value.pointOf number) = ((number.toInt : ℚ) : WithTop ℚ) := by
  simp [numberKey, Value.pointOf, Dyadic.ofInt, Dyadic.toRat_ofIntWithPrec_eq_mul_two_pow]

theorem compareTexts_ne_gt_iff (left right : String) :
    Value.compareTexts left right ≠ .gt ↔ left ≤ right := by
  unfold Value.compareTexts
  split
  · rename_i below
    simpa using below.le
  · rename_i notBelow
    split
    · rename_i same
      simp [same]
    · rename_i apart
      simp only [ne_eq, not_true_eq_false, false_iff, not_le]
      exact lt_of_le_of_ne (not_lt.mp notBelow) (Ne.symm apart)

theorem compareBytes_eq_gt_iff (left right : List UInt8) :
    Value.compareBytes left right = .gt ↔ right.map UInt8.toNat < left.map UInt8.toNat := by
  induction left generalizing right with
  | nil => cases right <;> simp [Value.compareBytes]
  | cons first rest ih =>
      cases right with
      | nil => simp [Value.compareBytes]
      | cons second others =>
          simp only [Value.compareBytes, List.map_cons, List.cons_lt_cons_iff,
            UInt8.lt_iff_toNat_lt]
          split
          · rename_i below
            simp only [reduceCtorEq, false_iff]
            omega
          · rename_i notBelow
            split
            · rename_i above
              simp [above]
            · rename_i notAbove
              have same : second.toNat = first.toNat := by omega
              simpa [same] using ih others

theorem compareBytes_ne_gt_iff (left right : List UInt8) :
    Value.compareBytes left right ≠ .gt ↔ left.map UInt8.toNat ≤ right.map UInt8.toNat := by
  rw [ne_eq, compareBytes_eq_gt_iff, not_lt]

namespace Value

/-- The line of numbers above null, the texts and the bytes, one behind the other. -/
abbrev SortKey := WithBot (WithBot (WithTop ℚ)) ⊕ₗ String ⊕ₗ List ℕ

def sortKey : Value → SortKey
  | .null => Sum.inlₗ ⊥
  | .integer number => Sum.inlₗ ↑(numberKey (pointOf number))
  | .real number => Sum.inlₗ ↑(numberKey number)
  | .text content => Sum.inrₗ (Sum.inlₗ content)
  | .blob content => Sum.inrₗ (Sum.inrₗ (content.map UInt8.toNat))

theorem sortOrder_ne_gt_iff (left right : Value) :
    sortOrder left right ≠ .gt ↔ left.sortKey ≤ right.sortKey := by
  cases left <;> cases right <;>
    simp [sortOrder, order, sortKey, compareReal_ne_gt_iff, compareTexts_ne_gt_iff,
      compareBytes_ne_gt_iff, numberKey_pointOf, Int.compare_eq_gt, -Sum.Lex.inl_bot]

theorem sortsAtMost_iff (left right : Value) :
    sortsAtMost left right = true ↔ left.sortKey ≤ right.sortKey := by
  rw [← sortOrder_ne_gt_iff]
  cases left <;> cases right <;> simp [sortsAtMost, sortOrder, order]

theorem sortKey_integer_le_iff (left right : Int64) :
    (Value.integer left).sortKey ≤ (Value.integer right).sortKey ↔ left ≤ right := by
  simp [sortKey, numberKey_pointOf, Int64.le_iff_toInt_le]

theorem sortKey_integer_inj {left right : Int64}
    (same : (Value.integer left).sortKey = (Value.integer right).sortKey) : left = right := by
  have below := (sortKey_integer_le_iff left right).mp same.le
  have above := (sortKey_integer_le_iff right left).mp same.ge
  exact Int64.le_antisymm below above

theorem sortKey_integer_lt_of_order {value : Value} {number : Int64}
    (greater : order value (.integer number) = some .gt) :
    (Value.integer number).sortKey < value.sortKey := by
  rw [← not_le, ← sortOrder_ne_gt_iff]
  cases value <;> simp_all [sortOrder, order]

end Value

theorem Row.sortOrder_single_ne_gt (column : Nat) (left right : Row) :
    (Row.sortOrder [column] left right != .gt) =
      decide ((left.valueAt column).sortKey ≤ (right.valueAt column).sortKey) := by
  rw [Bool.eq_iff_iff, bne_iff_ne, decide_eq_true_iff, ← Value.sortOrder_ne_gt_iff]
  simp [Row.sortOrder]

section Sorting

variable {α : Type} {atMost : α → α → Bool}

theorem filter_append_apart (test : α → Bool) {front back : List α}
    (inFront : ∀ a ∈ front, test a = true) (inBack : ∀ a ∈ back, test a = false) :
    (front ++ back).filter test = front ∧ (front ++ back).filter (!test ·) = back := by
  have frontKept := List.filter_eq_self.mpr inFront
  have backLeft : back.filter test = [] :=
    List.filter_eq_nil_iff.mpr fun a member => by simp [inBack a member]
  have frontLeft : front.filter (!test ·) = [] :=
    List.filter_eq_nil_iff.mpr fun a member => by simp [inFront a member]
  have backKept : back.filter (!test ·) = back :=
    List.filter_eq_self.mpr fun a member => by simp [inBack a member]
  simp [List.filter_append, frontKept, backLeft, frontLeft, backKept]

theorem mergeSort_cons_eq
    (transitive : ∀ a b c, atMost a b = true → atMost b c = true → atMost a c = true)
    (total : ∀ a b, (atMost a b || atMost b a) = true) (first : α) (rest : List α) :
    (first :: rest).mergeSort atMost =
        (rest.mergeSort atMost).filter (!atMost first ·) ++
          first :: (rest.mergeSort atMost).filter (atMost first ·) ∧
      (rest.mergeSort atMost).filter (!atMost first ·) ++
        (rest.mergeSort atMost).filter (atMost first ·) = rest.mergeSort atMost := by
  obtain ⟨front, back, sorted, sortedRest, below⟩ :=
    List.mergeSort_cons transitive total first rest
  have inOrder := List.pairwise_mergeSort transitive total (first :: rest)
  rw [sorted] at inOrder
  have above : ∀ a ∈ back, atMost first a = true :=
    (List.pairwise_cons.mp (List.pairwise_append.mp inOrder).2.1).1
  obtain ⟨frontKept, backKept⟩ := filter_append_apart (!atMost first ·) below
    fun a member => by simp [above a member]
  simp only [Bool.not_not] at backKept
  rw [sorted, sortedRest, frontKept, backKept]
  exact ⟨rfl, rfl⟩

theorem filter_mergeSort
    (transitive : ∀ a b c, atMost a b = true → atMost b c = true → atMost a c = true)
    (total : ∀ a b, (atMost a b || atMost b a) = true) (test : α → Bool) (elements : List α) :
    (elements.mergeSort atMost).filter test = (elements.filter test).mergeSort atMost := by
  induction elements with
  | nil => simp
  | cons first rest ih =>
      obtain ⟨sorted, together⟩ := mergeSort_cons_eq transitive total first rest
      by_cases kept : test first
      · have commuted (other : α → Bool) :
            ((rest.mergeSort atMost).filter other).filter test =
              ((rest.filter test).mergeSort atMost).filter other := by
          rw [← ih, List.filter_filter, List.filter_filter]
          exact List.filter_congr fun a _ => Bool.and_comm _ _
        rw [sorted, List.filter_append, List.filter_cons_of_pos kept, List.filter_cons_of_pos kept,
          (mergeSort_cons_eq transitive total first (rest.filter test)).1, commuted, commuted]
      · rw [sorted, List.filter_append, List.filter_cons_of_neg kept,
          List.filter_cons_of_neg kept, ← List.filter_append, together, ih]

end Sorting

theorem filter_sortedRows (column : Nat) (test : Row → Bool) (rows : List Row) :
    (sortedRows [column] rows).filter test = sortedRows [column] (rows.filter test) := by
  have single : [column].mergeSort = [column] := List.mergeSort_singleton column
  simp only [sortedRows, single, Row.sortOrder_single_ne_gt]
  apply filter_mergeSort
  · intro first second third below above
    simp only [decide_eq_true_eq] at below above ⊢
    exact below.trans above
  · intro first second
    simp only [Bool.or_eq_true, decide_eq_true_eq]
    exact le_total _ _

end Underwriting.Store
