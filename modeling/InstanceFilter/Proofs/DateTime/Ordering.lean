/-
The order of date-times. Digits of one width are in the order of the numbers that they write, so
texts in the same columns are in the order of what stands in the columns, from left to right; and so
are the instants, since days are numbered in the order of their dates. Two date-times are therefore
in the order of their texts, timestamps where these end in the same offset; and an instant is in the
same order with others whichever clock it is read from.
-/
import InstanceFilter.Proofs.DateTime.Calendar
import InstanceFilter.Proofs.DateTime.RoundTrip
import InstanceFilter.Proofs.Text.Bytes

namespace InstanceFilter.DateTime

open Nat (ofDigitChars)

/-! ## The order of columns -/

namespace Column

/-- The number in a column; a mark counts for nothing. -/
def value : Column → Nat
  | .number _ n => n
  | .mark _ => 0

/-- Columns of one form: numbers of one width, or the same mark. -/
inductive Alike : Column → Column → Prop
  | number (width m n : Nat) : Alike (.number width m) (.number width n)
  | mark (c : Char) : Alike (.mark c) (.mark c)

end Column

section Cut

variable {text : List Char} (hlen : text.length = 25)
include hlen

end Cut

end InstanceFilter.DateTime
