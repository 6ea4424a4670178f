/-
How a double is laid out as text. A layout says which magnitudes are written with an exponent; the
other numbers are positional and always have a point.
-/
import InstanceFilter.Decimal.Shortest

namespace InstanceFilter.Decimal

structure Layout where
  /-- The first power of ten that is written with an exponent. -/
  exponentFrom : Int
  /-- The last power of ten, downwards, that is written positionally. -/
  positionalDownTo : Int
  notANumber : String
  infinity : String

def zeros (n : Int) : List Char := List.replicate n.toNat '0'

/-- The digits of a nonzero decimal under a layout. -/
def Layout.decimal (layout : Layout) (d : Decimal) : List Char :=
  let digits := Nat.toDigits 10 d.digits
  -- the number of digits before the point
  let point : Int := digits.length + d.exponent
  if point - 1 ≥ layout.exponentFrom ∨ point - 1 < layout.positionalDownTo then
    let fraction := digits.drop 1
    digits.take 1 ++ (if fraction.isEmpty then [] else '.' :: fraction) ++
      'e' :: (toString (point - 1)).toList
  else if point ≤ 0 then
    '0' :: '.' :: zeros (-point) ++ digits
  else
    let fraction := digits.drop point.toNat
    digits.take point.toNat ++ zeros d.exponent ++
      '.' :: (if fraction.isEmpty then ['0'] else fraction)

/-- The text of a double under a layout. -/
def Layout.double (layout : Layout) (x : Float) : List Char :=
  let bits := x.toBits.toNat
  let magnitude := bits % 0x8000000000000000
  let sign := if bits ≥ 0x8000000000000000 then ['-'] else []
  if magnitude > 0x7FF0000000000000 then layout.notANumber.toList
  else if magnitude = 0x7FF0000000000000 then sign ++ layout.infinity.toList
  else if magnitude = 0 then sign ++ ['0', '.', '0']
  else sign ++ layout.decimal (Binary.ofBits magnitude).shortest

end InstanceFilter.Decimal
