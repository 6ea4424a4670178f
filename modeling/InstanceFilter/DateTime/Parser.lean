/-
Reading a date-time from its text form. The character after the fraction tells the two forms apart;
every field is digits of a fixed width, and the first fault in reading order is reported.
-/
import InstanceFilter.DateTime.Basic

namespace InstanceFilter.DateTime

/-- The number that digits write, after those read before them; `position` is that of the first. -/
def readDigits (position acc : Nat) : List Char → Except DateTime.Error Nat
  | [] => .ok acc
  | c :: rest =>
    if c.isDigit then readDigits (position + 1) (10 * acc + (c.toNat - '0'.toNat)) rest
    else .error (.notDigit position)

/-- The field of a text from position `start` up to `stop`. -/
def readField (text : List Char) (start stop : Nat) : Except DateTime.Error Nat :=
  readDigits start 0 ((text.drop start).take (stop - start))

/-- A field with a greatest value. -/
def readBounded (text : List Char) (field : Field) (start stop greatest : Nat) :
    Except DateTime.Error Nat := do
  let value ← readField text start stop
  if value > greatest then .error (.outOfRange field value) else .ok value

def readInterval (text : List Char) (micro : Nat) : Except DateTime.Error DateTime := do
  if text.drop 22 ≠ ['0', '0', '0'] then .error .wrongIntervalEnd
  let days ← readField text 0 8
  let hours ← readBounded text .hours 8 10 23
  let minutes ← readBounded text .minutes 10 12 59
  let seconds ← readBounded text .seconds 12 14 59
  return .interval (days * microsPerDay + hours * microsPerHour + minutes * microsPerMinute +
    seconds * microsPerSecond + micro)

def readTimestamp (text : List Char) (micro : Nat) (negative : Bool) :
    Except DateTime.Error DateTime := do
  let year ← readField text 0 4
  let month ← readBounded text .month 4 6 12
  let day ← readBounded text .day 6 8 31
  let hour ← readBounded text .hours 8 10 23
  let minute ← readBounded text .minutes 10 12 59
  let second ← readBounded text .seconds 12 14 59
  if ¬ Calendar.isDate year month day then .error (.outOfRange .day day)
  let offset ← readField text 22 25
  return .timestamp ⟨year, month, day, hour, minute, second, micro * 1000⟩
    (if negative then -offset else offset)

def parseChars (text : List Char) : Except DateTime.Error DateTime := do
  if ¬ (text.length = 25 ∧ text.all (·.toNat < 128)) then .error (.wrongLength text.length)
  if text[14]? ≠ some '.' then .error .missingPoint
  let micro ← readField text 15 21
  match text[21]? with
  | some ':' => readInterval text micro
  | some '+' => readTimestamp text micro false
  | some '-' => readTimestamp text micro true
  | some other => .error (.unknownSign other)
  | none => .error (.wrongLength text.length)

/-- The date-time that a text of 25 characters writes. -/
def parse (text : String) : Except DateTime.Error DateTime := parseChars text.toList

end InstanceFilter.DateTime
