import Underwriting.Calendar.Date

/-!
Whole months and years between two dates. A month is complete when the day of the month is reached
again, or when both dates are the last of their months. Both counts are truncated toward zero, so
swapping the dates changes the sign alone.
-/

namespace Underwriting

def completeMonths (later earlier : Date) : Int :=
  let months := (later.year - earlier.year) * 12 + later.month - earlier.month
  if later.day < earlier.day ∧ ¬(later.isMonthEnd ∧ earlier.isMonthEnd) then months - 1 else months

def wholeMonthsBetween (later earlier : Date) : Int :=
  if later.isBefore earlier then -completeMonths earlier later else completeMonths later earlier

def ageAt (birthDate on : Date) : Int := (wholeMonthsBetween on birthDate).tdiv 12

end Underwriting
