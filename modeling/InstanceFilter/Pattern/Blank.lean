/-
Reading past what has no meaning. In verbose patterns blanks may stand almost anywhere, and a
number sign starts a comment that ends with its line; other patterns have nothing to skip.
-/
import InstanceFilter.Text.Blank

namespace InstanceFilter.Pattern

mutual

/-- The text after blanks and comments. -/
def skipSpace : List Char → List Char
  | [] => []
  | c :: rest =>
    if Text.isBlank c then skipSpace rest
    else if c = '#' then skipComment rest
    else c :: rest

/-- The text after a comment, from inside it. -/
def skipComment : List Char → List Char
  | [] => []
  | c :: rest => if c = '\n' then skipSpace rest else skipComment rest

end

def skip (verbose : Bool) (text : List Char) : List Char :=
  if verbose then skipSpace text else text

mutual

theorem length_skipSpace_le : ∀ text, (skipSpace text).length ≤ text.length
  | [] => Nat.le_refl _
  | c :: rest => by
    simp only [skipSpace]
    split
    · exact Nat.le_succ_of_le (length_skipSpace_le rest)
    · split
      · exact Nat.le_succ_of_le (length_skipComment_le rest)
      · exact Nat.le_refl _

theorem length_skipComment_le : ∀ text, (skipComment text).length ≤ text.length
  | [] => Nat.le_refl _
  | c :: rest => by
    simp only [skipComment]
    split
    · exact Nat.le_succ_of_le (length_skipSpace_le rest)
    · exact Nat.le_succ_of_le (length_skipComment_le rest)

end

theorem length_skip_le (verbose : Bool) (text : List Char) :
    (skip verbose text).length ≤ text.length := by
  unfold skip
  split
  · exact length_skipSpace_le text
  · exact Nat.le_refl _

/-- The character that decides what a hyphen in a class means. In verbose patterns blanks and one
number sign are looked past, but not the text of a comment. -/
def peekPast (verbose : Bool) (text : List Char) : Option Char :=
  if verbose then (go false text).orElse fun _ => text.head? else text.head?
where
  go (seen : Bool) : List Char → Option Char
    | [] => none
    | c :: rest =>
      if Text.isBlank c then go seen rest
      else if c = '#' && !seen then go true rest
      else some c

end InstanceFilter.Pattern
