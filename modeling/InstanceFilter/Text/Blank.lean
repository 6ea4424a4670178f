/-
Blank characters, those with the property White_Space, and the trimming of texts.
-/
import InstanceFilter.Unicode.Property

namespace InstanceFilter.Text

def isBlank (c : Char) : Bool := Unicode.Property.whiteSpace.contains c

def trimLeft (text : List Char) : List Char := text.dropWhile isBlank

def trimRight (text : List Char) : List Char := (text.reverse.dropWhile isBlank).reverse

/-- A text without the blanks at its two ends. -/
def trim (text : List Char) : List Char := trimRight (trimLeft text)

theorem length_trimLeft_le (text : List Char) : (trimLeft text).length ≤ text.length :=
  (List.dropWhile_sublist isBlank).length_le

theorem length_trim_le (text : List Char) : (trim text).length ≤ text.length := by
  have h := (List.dropWhile_sublist (l := (trimLeft text).reverse) isBlank).length_le
  have := length_trimLeft_le text
  simp only [trim, trimRight, List.length_reverse] at *
  omega

end InstanceFilter.Text
