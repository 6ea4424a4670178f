/-
Names that ignore the case of ASCII letters. Two spellings name the same thing when their folded
forms agree, and names are ordered by their folded forms, code point by code point.
-/

namespace InstanceFilter.Text

/-- The folded form of a name: every ASCII letter in lower case. -/
def fold (name : String) : List Char := name.toList.map Char.toLower

def sameName (a b : String) : Bool := fold a == fold b

/-- Whether two names that may be missing are the same: both missing, or both there and the same. -/
def sameName? : Option String → Option String → Bool
  | some a, some b => sameName a b
  | none, none => true
  | _, _ => false

def nameLe (a b : String) : Bool := (compare (fold a) (fold b)).isLE

/-! ## Laws of sameness -/

theorem sameName_iff {a b : String} : sameName a b = true ↔ fold a = fold b := by
  simp [sameName]

@[simp] theorem sameName_self (a : String) : sameName a a = true := by simp [sameName]

theorem sameName_comm (a b : String) : sameName a b = sameName b a := by
  simp only [sameName, Bool.beq_comm]

theorem sameName_trans {a b c : String} (hab : sameName a b = true) (hbc : sameName b c = true) :
    sameName a c = true := by
  rw [sameName_iff] at *
  exact hab.trans hbc

/-- What is the same as a name is the same as every other spelling of it. -/
theorem sameName_left_congr {a b : String} (h : sameName a b = true) (other : String) :
    sameName a other = sameName b other := by
  rw [Bool.eq_iff_iff, sameName_iff, sameName_iff, sameName_iff.1 h]

theorem sameName_right_congr {a b : String} (h : sameName a b = true) (other : String) :
    sameName other a = sameName other b := by
  rw [sameName_comm other, sameName_comm other, sameName_left_congr h]

end InstanceFilter.Text
