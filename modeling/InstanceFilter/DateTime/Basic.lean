/-
Date-times: a timestamp is a wall-clock reading with its offset from UTC in minutes, an interval is
a length of time in microseconds. Both are built within limits of their text form of 25 characters,
and both compare by a normalized count of microseconds, within one form only. A reading may be finer
than a microsecond, which its text is not.
-/
import InstanceFilter.DateTime.Calendar

namespace InstanceFilter

inductive DateTime where
  | timestamp (wall : LocalTime) (offset : Int)
  | interval (micros : Nat)
  deriving Repr, DecidableEq

/-! ## What can be wrong with a date-time -/

/-- The parts of a date-time that have a range of their own. -/
inductive DateTime.Field where
  | year | month | day | hours | minutes | seconds | utcOffset | days
  deriving Repr, DecidableEq

def DateTime.Field.label : Field → String
  | .year => "year"
  | .month => "month"
  | .day => "day"
  | .hours => "hours"
  | .minutes => "minutes"
  | .seconds => "seconds"
  | .utcOffset => "utc offset"
  | .days => "days"

inductive DateTime.Error where
  | wrongLength (found : Nat)
  | missingPoint
  | notDigit (position : Nat)
  | outOfRange (field : Field) (value : Nat)
  | unknownSign (sign : Char)
  | wrongIntervalEnd
  deriving Repr, DecidableEq

def DateTime.Error.message : DateTime.Error → String
  | .wrongLength found => "datetime text must be 25 ASCII characters, got " ++ toString found
  | .missingPoint => "expected '.' at position 14"
  | .notDigit position => "expected digit at position " ++ toString position
  | .outOfRange field value => "field " ++ field.label ++ " out of range: " ++ toString value
  | .unknownSign sign => "unknown utc sign '" ++ sign.toString ++ "'"
  | .wrongIntervalEnd => "interval must end with ':000'"

namespace DateTime

/-! ## Building within the limits -/

def microsPerSecond : Nat := 1000000
def microsPerMinute : Nat := 60 * microsPerSecond
def microsPerHour : Nat := 60 * microsPerMinute
def microsPerDay : Nat := 24 * microsPerHour

/-- A timestamp has four digits for its year and three for its offset. Its fraction of a second is
not looked at. -/
def timestamp? (wall : LocalTime) (offset : Int) : Except DateTime.Error DateTime :=
  if ¬ (0 ≤ wall.year ∧ wall.year ≤ 9999) then .error (.outOfRange .year wall.year.natAbs)
  else if offset.natAbs > 999 then .error (.outOfRange .utcOffset offset.natAbs)
  else .ok (.timestamp wall offset)

/-- An interval has eight digits for its days. -/
def interval? (micros : Nat) : Except DateTime.Error DateTime :=
  let days := micros / microsPerDay
  if days > 99999999 then .error (.outOfRange .days days) else .ok (.interval micros)

/-! ## Order -/

def isInterval : DateTime → Bool
  | .timestamp .. => false
  | .interval _ => true

/-- Microseconds of UTC since the start of 1970 for a timestamp, the whole length for an interval.
What is finer is cut off toward 1970 on the timestamp's own clock, before its offset is taken. -/
def normalized : DateTime → Int
  | .timestamp wall offset => wall.toNanos.tdiv 1000 - offset * microsPerMinute
  | .interval micros => micros

/-- The order of two date-times of one form; a timestamp and an interval have none. -/
def compare? (a b : DateTime) : Option Ordering :=
  if a.isInterval = b.isInterval then some (compare a.normalized b.normalized) else none

/-- Two date-times are the same when they have an order and it is equality. -/
def same (a b : DateTime) : Bool := a.compare? b == some .eq

end DateTime

end InstanceFilter
