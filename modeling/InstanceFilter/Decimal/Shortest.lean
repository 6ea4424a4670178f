/-
The shortest decimal that reads back as a given binary number. A finite double is `m · 2 ^ q`; the
reals that round to it form an interval, closed when `m` is even. For one digit, two digits and so
on, the two neighbours of the value on the grid of decimals with that many digits are tried; the
first grid with a neighbour in the interval gives the digits, and of two the nearer is taken.
-/

namespace InstanceFilter

/-- A decimal `digits · 10 ^ exponent`. -/
structure Decimal where
  digits : Nat
  exponent : Int
  deriving Repr, DecidableEq

namespace Decimal

/-- The significand and exponent of a positive double, from its bits without the sign. -/
structure Binary where
  mantissa : Nat
  exponent : Int
  /-- The next double below is half a step closer than the next above. -/
  atBinade : Bool
  deriving Repr, DecidableEq

def Binary.ofBits (bits : Nat) : Binary :=
  let field : Nat := bits / 0x10000000000000 % 0x800
  let fraction : Nat := bits % 0x10000000000000
  if field = 0 then ⟨fraction, -1074, false⟩
  else ⟨0x10000000000000 + fraction, (field : Int) - 1075, fraction == 0 && field != 1⟩

/-- The value and the ends of its rounding interval as quarters of the last binary place, over one
common denominator. -/
structure Rounding where
  low : Nat
  value : Nat
  high : Nat
  denominator : Nat
  closed : Bool
  deriving Repr, DecidableEq

def Binary.rounding (x : Binary) : Rounding :=
  let scale := Nat.pow 2 (x.exponent - 2).toNat
  { low := (4 * x.mantissa - if x.atBinade then 1 else 2) * scale
    value := 4 * x.mantissa * scale
    high := (4 * x.mantissa + 2) * scale
    denominator := Nat.pow 2 (2 - x.exponent).toNat
    closed := x.mantissa % 2 == 0 }

/-- `10 ^ e` as a fraction: numerator and denominator. -/
def tenPower (e : Int) : Nat × Nat := (Nat.pow 10 e.toNat, Nat.pow 10 (-e).toNat)

/-- Whether `digits` units of `10 ^ e` lie in the rounding interval. -/
def Rounding.holds (r : Rounding) (e : Int) (digits : Nat) : Bool :=
  let (num, den) := tenPower e
  let point := digits * num * r.denominator
  if r.closed then r.low * den ≤ point && point ≤ r.high * den
  else r.low * den < point && point < r.high * den

/-- The decimal with unit `10 ^ e` in the interval, the nearer one if there are two; on a tie the
larger. -/
def Rounding.onGrid? (r : Rounding) (e : Int) : Option Decimal :=
  let (num, den) := tenPower e
  let unit := num * r.denominator
  let below := r.value * den / unit
  let rest := r.value * den % unit
  match r.holds e below, r.holds e (below + 1) with
  | true, true => some ⟨if 2 * rest < unit then below else below + 1, e⟩
  | true, false => some ⟨below, e⟩
  | false, true => some ⟨below + 1, e⟩
  | false, false => none

/-- The exponent of the leading decimal digit of `a / b`. -/
def leadingExponent (a b : Nat) : Int :=
  let guess : Int := ((Nat.toDigits 10 a).length : Int) - (Nat.toDigits 10 b).length
  let (num, den) := tenPower guess
  if num * b ≤ a * den then guess else guess - 1

/-- The decimal without the zeros at its end. -/
def stripped (d : Decimal) : Decimal :=
  if d.digits ≠ 0 ∧ d.digits % 10 = 0 then stripped ⟨d.digits / 10, d.exponent + 1⟩ else d
termination_by d.digits

/-- The shortest decimal that rounds to a positive binary number; seventeen digits always do. -/
def Binary.shortest (x : Binary) : Decimal :=
  let r := x.rounding
  let lead := leadingExponent r.value r.denominator
  let found := (List.range 17).findSome? fun (n : Nat) => r.onGrid? (lead - n)
  (found.getD ⟨0, 0⟩).stripped

end Decimal

end InstanceFilter
