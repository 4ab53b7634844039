import Mathlib.Data.Rat.Floor
import Mathlib.Tactic.Linarith
import Underwriting.Calendar.Age

/-!
Elapsed months as a rational number: whole months of the calendar, and one part in 31 for each day
that the days of the month are apart, unless both dates are the last of their months. Counting whole
months is truncating this number toward zero, and counting years is truncating a twelfth of it. The
counts are made in 32 bits, and no step of them leaves that range.
-/

namespace Underwriting

def truncated (number : ℚ) : Int := if number < 0 then ⌈number⌉ else ⌊number⌋

theorem truncated_of_between {number : ℚ} {whole : Int} (nonnegative : 0 ≤ number)
    (low : whole ≤ number) (high : number < whole + 1) : truncated number = whole := by
  rw [truncated, if_neg (not_lt.mpr nonnegative)]
  exact Int.floor_eq_iff.mpr ⟨low, high⟩

theorem truncated_neg (number : ℚ) : truncated (-number) = -truncated number := by
  unfold truncated
  rcases lt_trichotomy number 0 with below | rfl | above
  · rw [if_neg (by linarith), if_pos below, Int.floor_neg]
  · simp
  · rw [if_pos (by linarith), if_neg (by linarith), Int.ceil_neg]

theorem truncated_div_of_nonnegative {number : ℚ} (nonnegative : 0 ≤ number) :
    truncated (number / 12) = (truncated number).tdiv 12 := by
  have twelfth : 0 ≤ number / 12 := by positivity
  have floored : 0 ≤ ⌊number⌋ := Int.floor_nonneg.mpr nonnegative
  rw [truncated, truncated, if_neg (not_lt.mpr twelfth), if_neg (not_lt.mpr nonnegative),
    Int.tdiv_eq_ediv_of_nonneg floored]
  exact Int.floor_div_natCast number 12

/-- Truncating twice is truncating once. -/
theorem truncated_div (number : ℚ) : truncated (number / 12) = (truncated number).tdiv 12 := by
  rcases le_total 0 number with nonnegative | nonpositive
  · exact truncated_div_of_nonnegative nonnegative
  · have mirrored := truncated_div_of_nonnegative (neg_nonneg.mpr nonpositive)
    rw [neg_div, truncated_neg, truncated_neg, Int.neg_tdiv] at mirrored
    exact neg_inj.mp mirrored

namespace Date

def IsLastOfMonth (date : Date) : Prop := ¬Valid date.year date.month (date.day + 1)

instance (date : Date) : Decidable date.IsLastOfMonth := inferInstanceAs (Decidable (¬_))

theorem isBefore_eq_false_iff {left right : Date} :
    left.isBefore right = false ↔ right.ordinal ≤ left.ordinal := by
  simp [isBefore]

theorem isMonthEnd_iff (date : Date) : date.isMonthEnd = true ↔ date.IsLastOfMonth := by
  have valid := date.valid
  simp only [isMonthEnd, beq_iff_eq, IsLastOfMonth, Valid] at valid ⊢
  omega

def dayShare (later earlier : Date) : ℚ :=
  if (later.IsLastOfMonth ∧ earlier.IsLastOfMonth) ∨ later.day = earlier.day then 0
  else ((later.day : ℚ) - earlier.day) / 31

theorem dayShare_swap (later earlier : Date) :
    dayShare earlier later = -dayShare later earlier := by
  have condition : (earlier.IsLastOfMonth ∧ later.IsLastOfMonth) ∨ earlier.day = later.day ↔
      (later.IsLastOfMonth ∧ earlier.IsLastOfMonth) ∨ later.day = earlier.day := by
    rw [and_comm, eq_comm]
  unfold dayShare
  simp only [condition]
  split
  · simp
  · ring

theorem dayShare_of_incomplete {later earlier : Date} (short : later.day < earlier.day)
    (apart : ¬(later.IsLastOfMonth ∧ earlier.IsLastOfMonth)) :
    -1 ≤ dayShare later earlier ∧ dayShare later earlier < 0 := by
  have earlierBound : (earlier.day : ℚ) ≤ 31 := by exact_mod_cast earlier.day_le_31
  have laterLeast : (0 : ℚ) ≤ later.day := by positivity
  have shorter : (later.day : ℚ) < earlier.day := by exact_mod_cast short
  rw [dayShare, if_neg (not_or.mpr ⟨apart, short.ne⟩)]
  constructor <;> linarith

theorem dayShare_of_complete {later earlier : Date}
    (complete : ¬(later.day < earlier.day ∧ ¬(later.IsLastOfMonth ∧ earlier.IsLastOfMonth))) :
    0 ≤ dayShare later earlier ∧ dayShare later earlier < 1 := by
  unfold dayShare
  split
  · norm_num
  · rename_i differ
    obtain ⟨apart, _⟩ := not_or.mp differ
    have laterBound : (later.day : ℚ) ≤ 31 := by exact_mod_cast later.day_le_31
    have earlierLeast : (1 : ℚ) ≤ earlier.day := by exact_mod_cast earlier.valid.2.2.2.2.1
    have longer : (earlier.day : ℚ) ≤ later.day := by
      exact_mod_cast not_lt.mp fun short => complete ⟨short, apart⟩
    constructor <;> linarith

def calendarMonths (later earlier : Date) : Int :=
  (later.year - earlier.year) * 12 + later.month - earlier.month

end Date

/-- The months between two dates, negative if the first of them is the earlier one. -/
def monthsBetween (later earlier : Date) : ℚ :=
  12 * ((later.year : ℚ) - earlier.year) + ((later.month : ℚ) - earlier.month) +
    Date.dayShare later earlier

theorem monthsBetween_eq (later earlier : Date) :
    monthsBetween later earlier = Date.calendarMonths later earlier + Date.dayShare later earlier := by
  simp only [monthsBetween, Date.calendarMonths]
  push_cast
  ring

theorem monthsBetween_swap (later earlier : Date) :
    monthsBetween earlier later = -monthsBetween later earlier := by
  simp only [monthsBetween, Date.dayShare_swap later earlier]
  ring

theorem truncated_monthsBetween {later earlier : Date} (inOrder : later.isBefore earlier = false) :
    truncated (monthsBetween later earlier) = completeMonths later earlier := by
  have laterDay := later.day_le_31
  have earlierFirst : 1 ≤ earlier.day := earlier.valid.2.2.2.2.1
  have elapsed : 0 ≤ Date.calendarMonths later earlier * 31 + (later.day - earlier.day : Int) := by
    rw [Date.isBefore_eq_false_iff] at inOrder
    simp only [Date.ordinal] at inOrder
    simp only [Date.calendarMonths]
    omega
  rw [monthsBetween_eq]
  simp only [completeMonths, Date.isMonthEnd_iff]
  rw [← Date.calendarMonths]
  generalize Date.calendarMonths later earlier = months at elapsed ⊢
  by_cases incomplete : later.day < earlier.day ∧ ¬(later.IsLastOfMonth ∧ earlier.IsLastOfMonth)
  · -- The last month has begun and is not complete.
    obtain ⟨low, high⟩ := Date.dayShare_of_incomplete incomplete.1 incomplete.2
    have begun : (1 : ℚ) ≤ months := by
      have : 1 ≤ months := by omega
      exact_mod_cast this
    rw [if_pos incomplete]
    apply truncated_of_between
    · linarith
    · push_cast
      linarith
    · push_cast
      linarith
  · obtain ⟨low, high⟩ := Date.dayShare_of_complete incomplete
    have started : (0 : ℚ) ≤ months := by
      have : 0 ≤ months := by omega
      exact_mod_cast this
    rw [if_neg incomplete]
    apply truncated_of_between <;> linarith

theorem wholeMonthsBetween_eq_truncated (later earlier : Date) :
    wholeMonthsBetween later earlier = truncated (monthsBetween later earlier) := by
  unfold wholeMonthsBetween
  cases order : later.isBefore earlier with
  | false => simp [truncated_monthsBetween order]
  | true =>
      have swapped : earlier.isBefore later = false := by
        rw [Date.isBefore_eq_false_iff]
        simp only [Date.isBefore, decide_eq_true_eq] at order
        exact order.le
      rw [monthsBetween_swap earlier later, truncated_neg, truncated_monthsBetween swapped]
      simp

example : wholeMonthsBetween ⟨2023, 2, 28, by decide⟩ ⟨2023, 1, 31, by decide⟩ = 1 := by decide

theorem ageAt_eq_truncated (birthDate on : Date) :
    ageAt birthDate on = truncated (monthsBetween on birthDate / 12) := by
  rw [ageAt, wholeMonthsBetween_eq_truncated, truncated_div]

/-! The same counts in numbers of 32 bits, where a step that leaves their range has no result. -/

namespace Counting32

def fit? (number : Int) : Option Int32 :=
  if Int32.minValue.toInt ≤ number ∧ number ≤ Int32.maxValue.toInt then some (Int32.ofInt number)
  else none

def completeMonths? (later earlier : Date) : Option Int32 := do
  let laterYear ← fit? later.year
  let earlierYear ← fit? earlier.year
  let years ← fit? (laterYear.toInt - earlierYear.toInt)
  let yearMonths ← fit? (years.toInt * 12)
  let laterMonth ← fit? later.month
  let reached ← fit? (yearMonths.toInt + laterMonth.toInt)
  let earlierMonth ← fit? earlier.month
  let months ← fit? (reached.toInt - earlierMonth.toInt)
  if later.day < earlier.day ∧ ¬(later.isMonthEnd ∧ earlier.isMonthEnd) then fit? (months.toInt - 1)
  else some months

def wholeMonthsBetween? (later earlier : Date) : Option Int32 :=
  if later.isBefore earlier then
    (completeMonths? earlier later).bind fun months => fit? (-months.toInt)
  else completeMonths? later earlier

def ageAt? (birthDate on : Date) : Option Int32 :=
  (wholeMonthsBetween? on birthDate).bind fun months => fit? (months.toInt.tdiv 12)

theorem fit?_exact {number : Int} (low : -2147483648 ≤ number) (high : number ≤ 2147483647) :
    ∃ counted, fit? number = some counted ∧ counted.toInt = number := by
  refine ⟨Int32.ofInt number, ?_, ?_⟩
  · exact if_pos ⟨low, high⟩
  · exact Int32.toInt_ofInt_of_le low (Int.lt_add_one_of_le high)

theorem completeMonths?_exact (later earlier : Date) :
    ∃ counted, completeMonths? later earlier = some counted ∧
      counted.toInt = completeMonths later earlier ∧
      -6291469 ≤ counted.toInt ∧ counted.toInt ≤ 6291471 := by
  obtain ⟨laterLow, laterHigh, laterFirst, laterLast, _⟩ := later.valid
  obtain ⟨earlierLow, earlierHigh, earlierFirst, earlierLast, _⟩ := earlier.valid
  obtain ⟨laterYear, laterYearFits, laterYearSame⟩ := @fit?_exact later.year (by omega) (by omega)
  obtain ⟨earlierYear, earlierYearFits, earlierYearSame⟩ :=
    @fit?_exact earlier.year (by omega) (by omega)
  obtain ⟨years, yearsFit, yearsSame⟩ :=
    @fit?_exact (laterYear.toInt - earlierYear.toInt) (by omega) (by omega)
  obtain ⟨yearMonths, yearMonthsFit, yearMonthsSame⟩ :=
    @fit?_exact (years.toInt * 12) (by omega) (by omega)
  obtain ⟨laterMonth, laterMonthFits, laterMonthSame⟩ :=
    @fit?_exact later.month (by omega) (by omega)
  obtain ⟨reached, reachedFits, reachedSame⟩ :=
    @fit?_exact (yearMonths.toInt + laterMonth.toInt) (by omega) (by omega)
  obtain ⟨earlierMonth, earlierMonthFits, earlierMonthSame⟩ :=
    @fit?_exact earlier.month (by omega) (by omega)
  obtain ⟨months, monthsFit, monthsSame⟩ :=
    @fit?_exact (reached.toInt - earlierMonth.toInt) (by omega) (by omega)
  obtain ⟨lessOne, lessOneFits, lessOneSame⟩ :=
    @fit?_exact (months.toInt - 1) (by omega) (by omega)
  simp only [completeMonths?, laterYearFits, earlierYearFits, yearsFit, yearMonthsFit,
    laterMonthFits, reachedFits, earlierMonthFits, monthsFit, bind, Option.bind, completeMonths]
  split
  · exact ⟨lessOne, lessOneFits, by omega, by omega, by omega⟩
  · exact ⟨months, rfl, by omega, by omega, by omega⟩

theorem wholeMonthsBetween?_exact (later earlier : Date) :
    ∃ counted, wholeMonthsBetween? later earlier = some counted ∧
      counted.toInt = wholeMonthsBetween later earlier ∧
      -6291471 ≤ counted.toInt ∧ counted.toInt ≤ 6291471 := by
  unfold wholeMonthsBetween? wholeMonthsBetween
  split
  · obtain ⟨months, counted, same, low, high⟩ := completeMonths?_exact earlier later
    obtain ⟨opposite, fits, oppositeSame⟩ := @fit?_exact (-months.toInt) (by omega) (by omega)
    exact ⟨opposite, by simp [counted, fits], by omega, by omega, by omega⟩
  · obtain ⟨months, counted, same, low, high⟩ := completeMonths?_exact later earlier
    exact ⟨months, counted, same, by omega, by omega⟩

theorem ageAt?_exact (birthDate on : Date) :
    ∃ counted, ageAt? birthDate on = some counted ∧ counted.toInt = ageAt birthDate on := by
  obtain ⟨months, counted, same, low, high⟩ := wholeMonthsBetween?_exact on birthDate
  have smaller := Int.natAbs_tdiv_le_natAbs months.toInt 12
  obtain ⟨years, fits, yearsSame⟩ := @fit?_exact (months.toInt.tdiv 12) (by omega) (by omega)
  exact ⟨years, by simp [ageAt?, counted, fits], by rw [yearsSame, same, ageAt]⟩

end Counting32

/-- Whole months between two dates are the months between them, and an age is a twelfth of these,
both truncated toward zero. Counted in 32 bits, each step up to them has a result. -/
theorem ages_are_truncated_months (later earlier : Date) :
    wholeMonthsBetween later earlier = truncated (monthsBetween later earlier) ∧
      ageAt earlier later = truncated (monthsBetween later earlier / 12) ∧
      (Counting32.wholeMonthsBetween? later earlier).map Int32.toInt =
        some (wholeMonthsBetween later earlier) ∧
      (Counting32.ageAt? earlier later).map Int32.toInt = some (ageAt earlier later) := by
  obtain ⟨months, monthsCounted, monthsSame, _⟩ :=
    Counting32.wholeMonthsBetween?_exact later earlier
  obtain ⟨age, ageCounted, ageSame⟩ := Counting32.ageAt?_exact earlier later
  refine ⟨wholeMonthsBetween_eq_truncated later earlier, ageAt_eq_truncated earlier later, ?_, ?_⟩
  · rw [monthsCounted, Option.map_some, monthsSame]
  · rw [ageCounted, Option.map_some, ageSame]

end Underwriting
