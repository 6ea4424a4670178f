/-
Tables of code points. A table is written as text in the manner of the character database:
hexadecimal points and ranges of them, `2D` or `41-5A`, separated by blanks.
-/

namespace InstanceFilter.Unicode

/-- The code points from `first` to `last`, both included. -/
structure CodeRange where
  first : Nat
  last : Nat
  deriving Repr, DecidableEq

abbrev CodeTable := List CodeRange

/-! ## Reading tables -/

/-- The value of a hexadecimal digit, in either case. -/
def hexDigit? (c : Char) : Option Nat :=
  if '0' ≤ c ∧ c ≤ '9' then some (c.toNat - '0'.toNat)
  else if 'A' ≤ c ∧ c ≤ 'F' then some (c.toNat - 'A'.toNat + 10)
  else if 'a' ≤ c ∧ c ≤ 'f' then some (c.toNat - 'a'.toNat + 10)
  else none

/-- The words of a text: its longest runs without blanks and line ends. -/
def words (text : List Char) : List (List Char) :=
  let (word, done) := text.foldr
    (fun c (word, done) =>
      if c = ' ' ∨ c = '\n' then ([], if word = [] then done else word :: done)
      else (c :: word, done))
    (([] : List Char), ([] : List (List Char)))
  if word = [] then done else word :: done

/-- The numbers of a word such as `41-5A`, in order. -/
def joinedNumbers (word : List Char) : List Nat :=
  let (number, done) := word.foldl
    (fun (number, done) c =>
      match hexDigit? c with
      | some d => (16 * number + d, done)
      | none => (0, number :: done))
    (0, ([] : List Nat))
  (number :: done).reverse

/-- The table that a text writes down. -/
def CodeTable.ofText (text : String) : CodeTable :=
  (words text.toList).filterMap fun word =>
    match joinedNumbers word with
    | [point] => some ⟨point, point⟩
    | [first, last] => some ⟨first, last⟩
    | _ => none

end InstanceFilter.Unicode
