/-
Equality and order of values. Equality looks at all of a value, arrays by length and then element
by element; order holds only between two scalars of one ordered kind.
-/
import InstanceFilter.Value.Basic

namespace InstanceFilter

/-! ## Equality -/

/-- Lists of one length whose elements are pairwise the same. -/
def sameList {α : Type} (same : α → α → Bool) : List α → List α → Bool
  | [], [] => true
  | a :: as, b :: bs => same a b && sameList same as bs
  | _, _ => false

def ArrayValue.same : ArrayValue → ArrayValue → Bool
  | .integer a, .integer b => sameList (· == ·) a b
  | .double a, .double b => sameList (· == ·) a b
  | .boolean a, .boolean b => sameList (· == ·) a b
  | .string a, .string b => sameList (· == ·) a b
  | .dateTime a, .dateTime b => sameList DateTime.same a b
  | .reference a, .reference b => sameList ObjectPath.same a b
  | _, _ => false

mutual

def Value.same : Value → Value → Bool
  | .null, .null => true
  | .integer a, .integer b => a == b
  | .double a, .double b => a == b
  | .boolean a, .boolean b => a == b
  | .string a, .string b => a == b
  | .dateTime a, .dateTime b => a.same b
  | .reference a, .reference b => a.same b
  | .property a, .property b => a.same b
  | .array a, .array b => a.same b
  | _, _ => false

def PropertyRef.same : PropertyRef → PropertyRef → Bool
  | ⟨name, index, chain⟩, ⟨name', index', chain'⟩ =>
    name == name' && index == index' && sameChain chain chain'

def sameChain : List Value → List Value → Bool
  | [], [] => true
  | a :: as, b :: bs => a.same b && sameChain as bs
  | _, _ => false

end

/-! ## Order -/

/-- The order of two doubles; none when either is not a number. -/
def compareDouble? (a b : Float) : Option Ordering :=
  if a < b then some .lt else if a == b then some .eq else if b < a then some .gt else none

/-- The order of two texts by their code points. -/
def compareText (a b : String) : Ordering := compare a.toList b.toList

namespace Value

def compare? : Value → Value → Option Ordering
  | .integer a, .integer b => some (compare a.toInt b.toInt)
  | .double a, .double b => compareDouble? a b
  | .string a, .string b => some (compareText a b)
  | .dateTime a, .dateTime b => a.compare? b
  | _, _ => none

/-- False for a timestamp beside an interval, both scalars. -/
def formsAgree : Value → Value → Bool
  | .dateTime a, .dateTime b => a.isInterval == b.isInterval
  | _, _ => true

end Value

end InstanceFilter
