/-
The proleptic Gregorian calendar: leap years, month lengths, and the number of a day counted from
the first day of 1970.
-/

namespace InstanceFilter

namespace Calendar

def isLeapYear (year : Int) : Bool :=
  year % 4 == 0 && (year % 100 != 0 || year % 400 == 0)

/-- The number of days of a month; a month that does not exist has none. -/
def daysInMonth (year : Int) (month : Nat) : Nat :=
  if month = 2 then (if isLeapYear year then 29 else 28)
  else if month ∈ [4, 6, 9, 11] then 30
  else if month ∈ [1, 3, 5, 7, 8, 10, 12] then 31
  else 0

def isDate (year : Int) (month day : Nat) : Bool := 1 ≤ day && day ≤ daysInMonth year month

/-- The days from the first day of year 0 to the first day of a year. -/
def daysBeforeYear (year : Int) : Int :=
  365 * year + (year + 3) / 4 - (year + 99) / 100 + (year + 399) / 400

def daysBeforeMonth (year : Int) (month : Nat) : Nat :=
  (List.range (month - 1)).foldl (fun days k => days + daysInMonth year (k + 1)) 0

/-- The days from the first day of 1970 to a date. -/
def dayNumber (year : Int) (month day : Nat) : Int :=
  daysBeforeYear year + daysBeforeMonth year month + day - 1 - daysBeforeYear 1970

end Calendar

/-- A wall-clock reading, to the nanosecond. -/
structure LocalTime where
  year : Int
  month : Nat
  day : Nat
  hour : Nat
  minute : Nat
  second : Nat
  nano : Nat
  deriving Repr, DecidableEq

namespace LocalTime

/-- The date is one of the calendar and the time one of the day. -/
def Exists (t : LocalTime) : Prop :=
  Calendar.isDate t.year t.month t.day = true ∧
    t.hour < 24 ∧ t.minute < 60 ∧ t.second < 60 ∧ t.nano < 1000000000

instance (t : LocalTime) : Decidable t.Exists := by unfold Exists; infer_instance

/-- The whole microseconds of the second. -/
def micro (t : LocalTime) : Nat := t.nano / 1000

/-- The nanoseconds from the start of 1970 to a reading, both on the same clock. -/
def toNanos (t : LocalTime) : Int :=
  (((Calendar.dayNumber t.year t.month t.day * 24 + t.hour) * 60 + t.minute) * 60 + t.second) *
    1000000000 + t.nano

end LocalTime

end InstanceFilter
