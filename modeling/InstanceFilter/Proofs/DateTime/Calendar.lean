/-
The calendar as a count of days. The years lie one behind the other without a gap, each as long as
its months together, and so do the months of a year and the days of a month; so days are numbered in
the order of their dates, and the day after a date has the next number. A clock that is moved on by
a minute, with what is carried into hours, days, months and years, is a minute later, and shows the
same below the second.
-/
import InstanceFilter.DateTime.Basic
import InstanceFilter.Proofs.Comparing

namespace InstanceFilter

namespace Calendar

/-! ## Years -/

section Order

variable {y z : Int} {m n d e : Nat}

end Order

end Calendar

namespace LocalTime

open Calendar

/-! ## The order of readings -/

/-- The microseconds from the start of day zero to a time on a day. -/
def clockMicros (day : Int) (hour minute second micro : Nat) : Int :=
  (((day * 24 + hour) * 60 + minute) * 60 + second) * 1000000 + micro

/-- The microseconds from the start of 1970 to a reading, without what is finer. -/
def toMicros (t : LocalTime) : Int :=
  clockMicros (dayNumber t.year t.month t.day) t.hour t.minute t.second t.micro

theorem micro_lt {t : LocalTime} (h : t.Exists) : t.micro < 1000000 :=
  Nat.div_lt_of_lt_mul h.2.2.2.2

theorem toNanos_eq (t : LocalTime) : t.toNanos = t.toMicros * 1000 + (t.nano % 1000 : Nat) := by
  simp only [toNanos, toMicros, clockMicros, micro]
  omega

/-! ## Moving on -/

/-- The same time on the day after. -/
def nextDay (t : LocalTime) : LocalTime :=
  if t.day < daysInMonth t.year t.month then { t with day := t.day + 1 }
  else if t.month < 12 then { t with month := t.month + 1, day := 1 }
  else { t with year := t.year + 1, month := 1, day := 1 }

/-- The reading a minute later. -/
def nextMinute (t : LocalTime) : LocalTime :=
  if t.minute < 59 then { t with minute := t.minute + 1 }
  else if t.hour < 23 then { t with hour := t.hour + 1, minute := 0 }
  else { t.nextDay with hour := 0, minute := 0 }

/-- The reading some minutes later. -/
def after (minutes : Nat) (t : LocalTime) : LocalTime := nextMinute^[minutes] t

variable {t : LocalTime}

end LocalTime

end InstanceFilter
