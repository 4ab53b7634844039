import Mathlib.Data.Int.ConditionallyCompleteOrder
import Underwriting.Proofs.Calendar.ElapsedMonths

/-!
Ages along the calendar. Counted in years, the exception for the ends of months is left only where
a leap day meets a common year, so an age is the difference of the years, less one in front of the
anniversary. From that no age falls when the day moves on, and nobody is older for a later birth.
-/

namespace Underwriting

namespace Date

instance : LinearOrder Date := LinearOrder.lift' ordinal fun _ _ same => ordinal_inj.mp same

theorem le_iff {left right : Date} :
    left ≤ right ↔ left.year < right.year ∨ left.year = right.year ∧
      (left.month < right.month ∨ left.month = right.month ∧ left.day ≤ right.day) := by
  change left.ordinal ≤ right.ordinal ↔ _
  have leftShort := left.day_le_31
  have rightShort := right.day_le_31
  obtain ⟨_, _, leftFirst, leftLast, leftDay, _⟩ := left.valid
  obtain ⟨_, _, rightFirst, rightLast, rightDay, _⟩ := right.valid
  simp only [ordinal]
  omega

theorem isBefore_iff {left right : Date} : left.isBefore right = true ↔ left < right := by
  unfold isBefore
  exact decide_eq_true_iff

def BeforeAnniversary (later earlier : Date) : Prop :=
  later.month < earlier.month ∨ later.month = earlier.month ∧ later.day < earlier.day ∧
    ¬(later.isMonthEnd ∧ earlier.isMonthEnd)

instance (later earlier : Date) : Decidable (later.BeforeAnniversary earlier) :=
  inferInstanceAs (Decidable (_ ∨ _))

theorem isMonthEnd_iff_day {date : Date} :
    date.isMonthEnd = true ↔ date.day = daysInMonth date.year date.month :=
  beq_iff_eq

end Date

def completeYears (later earlier : Date) : Int := completeMonths later earlier / 12

/-- The day of the month counts for nothing but the side of the anniversary. -/
theorem completeYears_eq (later earlier : Date) :
    completeYears later earlier =
      later.year - earlier.year - if later.BeforeAnniversary earlier then 1 else 0 := by
  obtain ⟨_, _, laterFirst, laterLast, _⟩ := later.valid
  obtain ⟨_, _, earlierFirst, earlierLast, _⟩ := earlier.valid
  simp only [completeYears, completeMonths, Date.BeforeAnniversary]
  by_cases incomplete : later.day < earlier.day ∧ ¬(later.isMonthEnd ∧ earlier.isMonthEnd)
  · simp only [incomplete, not_false_eq_true, and_true, and_self, if_true]
    split <;> omega
  · simp only [incomplete, and_false, or_false, if_false]
    split <;> omega

theorem daysInMonth_le_succ (year other : Int) (month : Nat) :
    daysInMonth year month ≤ daysInMonth other month + 1 := by
  unfold daysInMonth
  repeat' split
  all_goals omega

theorem Date.eq_of_same_month {left right : Date} (sameYear : left.year = right.year)
    (sameMonth : left.month = right.month) (sameDay : left.day = right.day) : left = right := by
  apply ordinal_inj.mp
  unfold ordinal
  omega

theorem Date.BeforeAnniversary.earlier_date {left right earlier : Date}
    (short : right.BeforeAnniversary earlier) (sameYear : left.year = right.year)
    (inOrder : left ≤ right) : left.BeforeAnniversary earlier := by
  have order := Date.le_iff.mp inOrder
  rcases short with monthBefore | ⟨sameMonth, dayBefore, apart⟩
  · exact Or.inl (by omega)
  · by_cases sooner : left.month < earlier.month
    · exact Or.inl sooner
    · have leftMonth : left.month = right.month := by omega
      refine Or.inr ⟨by omega, by omega, ?_⟩
      rintro ⟨leftEnd, earlierEnd⟩
      -- No day of the month follows its last one, so the two dates are one.
      have within := right.valid.2.2.2.2.2
      rw [Date.isMonthEnd_iff_day, sameYear, leftMonth] at leftEnd
      have same := Date.eq_of_same_month sameYear leftMonth (by omega)
      rw [← sameYear, ← leftMonth, ← Date.isMonthEnd_iff_day] at leftEnd
      exact apart ⟨same ▸ leftEnd, earlierEnd⟩

theorem Date.BeforeAnniversary.later_birth {later left right : Date}
    (short : later.BeforeAnniversary left) (sameYear : left.year = right.year)
    (inOrder : left ≤ right) : later.BeforeAnniversary right := by
  have order := Date.le_iff.mp inOrder
  rcases short with monthBefore | ⟨sameMonth, dayBefore, apart⟩
  · exact Or.inl (by omega)
  · by_cases sooner : later.month < right.month
    · exact Or.inl sooner
    · have rightMonth : left.month = right.month := by omega
      refine Or.inr ⟨by omega, by omega, ?_⟩
      rintro ⟨laterEnd, rightEnd⟩
      -- One month has at most one day more in one year than in another, and that day is taken.
      have close := daysInMonth_le_succ right.year later.year right.month
      have sameDay : left.day = right.day := by
        rw [Date.isMonthEnd_iff_day] at laterEnd rightEnd
        rw [sameMonth, rightMonth] at laterEnd
        omega
      have same := Date.eq_of_same_month sameYear rightMonth sameDay
      exact apart ⟨laterEnd, same ▸ rightEnd⟩

/-- Two dates count fewer years than two others if their years are closer, or as close and the first
two are in front of the anniversary wherever the others are. -/
theorem completeYears_le {later earlier otherLater otherEarlier : Date}
    (closer : later.year - earlier.year < otherLater.year - otherEarlier.year ∨
      later.year - earlier.year = otherLater.year - otherEarlier.year ∧
        (otherLater.BeforeAnniversary otherEarlier → later.BeforeAnniversary earlier)) :
    completeYears later earlier ≤ completeYears otherLater otherEarlier := by
  rw [completeYears_eq, completeYears_eq]
  rcases closer with fewer | ⟨asMany, short⟩
  · split <;> split <;> omega
  · by_cases otherShort : otherLater.BeforeAnniversary otherEarlier
    · rw [if_pos otherShort, if_pos (short otherShort), asMany]
    · rw [if_neg otherShort]
      split <;> omega

theorem completeYears_monotone (earlier : Date) :
    Monotone fun later => completeYears later earlier := by
  intro left right inOrder
  have order := Date.le_iff.mp inOrder
  apply completeYears_le
  by_cases sameYear : left.year = right.year
  · exact Or.inr ⟨by rw [sameYear], fun short => short.earlier_date sameYear inOrder⟩
  · exact Or.inl (by omega)

theorem completeYears_antitone (later : Date) : Antitone (completeYears later) := by
  intro left right inOrder
  have order := Date.le_iff.mp inOrder
  apply completeYears_le
  by_cases sameYear : left.year = right.year
  · exact Or.inr ⟨by rw [sameYear], fun short => short.later_birth sameYear inOrder⟩
  · exact Or.inl (by omega)

theorem completeMonths_nonneg {later earlier : Date} (inOrder : earlier ≤ later) :
    0 ≤ completeMonths later earlier := by
  have order := Date.le_iff.mp inOrder
  obtain ⟨_, _, laterFirst, laterLast, _⟩ := later.valid
  obtain ⟨_, _, earlierFirst, earlierLast, _⟩ := earlier.valid
  simp only [completeMonths]
  split <;> omega

theorem completeYears_nonneg {later earlier : Date} (inOrder : earlier ≤ later) :
    0 ≤ completeYears later earlier :=
  Int.ediv_nonneg (completeMonths_nonneg inOrder) (by decide)

theorem ageAt_of_born {birthDate on : Date} (born : birthDate ≤ on) :
    ageAt birthDate on = completeYears on birthDate := by
  have order : on.isBefore birthDate = false := by
    rw [← Bool.not_eq_true, Date.isBefore_iff]
    exact not_lt.mpr born
  rw [ageAt, wholeMonthsBetween, order]
  exact Int.tdiv_eq_ediv_of_nonneg (completeMonths_nonneg born)

theorem ageAt_swap (birthDate on : Date) : ageAt on birthDate = -ageAt birthDate on := by
  rw [ageAt, ageAt, wholeMonthsBetween_eq_truncated, wholeMonthsBetween_eq_truncated,
    monthsBetween_swap on birthDate, truncated_neg, Int.neg_tdiv]

theorem ageAt_monotone (birthDate : Date) : Monotone (ageAt birthDate) := by
  intro start later inOrder
  rcases le_total birthDate start with born | unborn
  · rw [ageAt_of_born born, ageAt_of_born (born.trans inOrder)]
    exact completeYears_monotone birthDate inOrder
  · rw [ageAt_swap start birthDate, ageAt_of_born unborn]
    rcases le_total birthDate later with reached | stillUnborn
    · rw [ageAt_of_born reached]
      have before := completeYears_nonneg unborn
      have behind := completeYears_nonneg reached
      omega
    · rw [ageAt_swap later birthDate, ageAt_of_born stillUnborn]
      exact neg_le_neg (completeYears_antitone birthDate inOrder)

/-- No age falls when the day moves on, and none rises with a later birth. -/
theorem ages_follow_calendar :
    (∀ birthDate, Monotone (ageAt birthDate)) ∧ ∀ on, Antitone fun birthDate => ageAt birthDate on := by
  refine ⟨ageAt_monotone, ?_⟩
  intro on birth laterBirth inOrder
  simp only [ageAt_swap on]
  exact neg_le_neg (ageAt_monotone on inOrder)

theorem leapDay_ages_in_order :
    let leapDay : Date := ⟨2000, 2, 29, by decide⟩
    let monthEnd : Date := ⟨2045, 2, 28, by decide⟩
    let nextLeapDay : Date := ⟨2048, 2, 29, by decide⟩
    leapDay ≤ nextLeapDay ∧ monthEnd ≤ nextLeapDay ∧
      ageAt leapDay monthEnd ≤ ageAt leapDay nextLeapDay ∧
      ageAt nextLeapDay monthEnd ≤ ageAt leapDay monthEnd :=
  ⟨by decide, by decide, ages_follow_calendar.1 _ (by decide), ages_follow_calendar.2 _ (by decide)⟩

end Underwriting
