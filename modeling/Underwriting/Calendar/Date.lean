import Underwriting.Text.Digits

/-!
Dates of the proleptic Gregorian calendar, from the year -262143 to the year 262142. A date is
printed as year, month and day; years outside 0 to 9999 carry a sign.
-/

namespace Underwriting

def isLeapYear (year : Int) : Bool := year % 4 == 0 && (year % 100 != 0 || year % 400 == 0)

def daysInMonth (year : Int) (month : Nat) : Nat :=
  if month = 2 then (if isLeapYear year then 29 else 28)
  else if month = 4 ∨ month = 6 ∨ month = 9 ∨ month = 11 then 30
  else 31

def Date.Valid (year : Int) (month day : Nat) : Prop :=
  -262143 ≤ year ∧ year ≤ 262142 ∧ 1 ≤ month ∧ month ≤ 12 ∧ 1 ≤ day ∧ day ≤ daysInMonth year month

instance (year : Int) (month day : Nat) : Decidable (Date.Valid year month day) :=
  inferInstanceAs (Decidable (_ ∧ _))

structure Date where
  year : Int
  month : Nat
  day : Nat
  valid : Date.Valid year month day
deriving DecidableEq

namespace Date

def ofParts? (year : Int) (month day : Nat) : Option Date :=
  if valid : Valid year month day then some ⟨year, month, day, valid⟩ else none

/-- Counts days as if each month had 31 of them, which keeps the order of dates. -/
def ordinal (date : Date) : Int := (date.year * 12 + date.month) * 31 + date.day

def isBefore (left right : Date) : Bool := left.ordinal < right.ordinal

def isMonthEnd (date : Date) : Bool := date.day == daysInMonth date.year date.month

def yearChars (year : Int) : List Char :=
  if 0 ≤ year ∧ year ≤ 9999 then Text.paddedDigits 4 year.toNat
  else (if year < 0 then '-' else '+') :: Text.paddedDigits 4 year.natAbs

def toChars (date : Date) : List Char :=
  yearChars date.year ++ '-' :: Text.paddedDigits 2 date.month ++
    '-' :: Text.paddedDigits 2 date.day

def toText (date : Date) : String := String.ofList date.toChars

instance : ToString Date := ⟨toText⟩

theorem day_le_31 (date : Date) : date.day ≤ 31 := by
  have bound := date.valid.2.2.2.2.2
  unfold daysInMonth at bound
  split at bound
  · split at bound <;> omega
  · split at bound <;> omega

theorem ordinal_inj {left right : Date} : left.ordinal = right.ordinal ↔ left = right := by
  constructor
  · intro same
    have leftShort := left.day_le_31
    have rightShort := right.day_le_31
    obtain ⟨leftYear, leftMonth, leftDay, leftValid⟩ := left
    obtain ⟨rightYear, rightMonth, rightDay, rightValid⟩ := right
    have leftBounds := leftValid.2.2
    have rightBounds := rightValid.2.2
    simp only [ordinal] at *
    simp only [mk.injEq]
    omega
  · rintro rfl
    rfl

end Date

end Underwriting
