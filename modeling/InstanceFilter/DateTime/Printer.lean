/-
The text form of a date-time, 25 characters: `yyyymmddhhmmss.mmmmmmsooo` for a timestamp with the
sign and minutes of its offset, `ddddddddhhmmss.mmmmmm:000` for an interval. The fraction of a
second is written in whole microseconds.
-/
import InstanceFilter.DateTime.Basic

namespace InstanceFilter.DateTime

/-- A number with zeros before it up to a width. -/
def padded (width : Nat) (n : Nat) : List Char :=
  let digits := Nat.toDigits 10 n
  List.replicate (width - digits.length) '0' ++ digits

def render : DateTime → List Char
  | .timestamp t offset =>
    padded 4 t.year.toNat ++ padded 2 t.month ++ padded 2 t.day ++ padded 2 t.hour ++
      padded 2 t.minute ++ padded 2 t.second ++ '.' :: padded 6 t.micro ++
      (if offset < 0 then '-' else '+') :: padded 3 offset.natAbs
  | .interval micros =>
    padded 8 (micros / microsPerDay) ++ padded 2 (micros % microsPerDay / microsPerHour) ++
      padded 2 (micros % microsPerHour / microsPerMinute) ++
      padded 2 (micros % microsPerMinute / microsPerSecond) ++
      '.' :: padded 6 (micros % microsPerSecond) ++ [':', '0', '0', '0']

def toText (d : DateTime) : String := String.ofList d.render

end InstanceFilter.DateTime
