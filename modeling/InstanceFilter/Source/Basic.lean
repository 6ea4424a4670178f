/-
Sources: what a filter program is judged against. A source answers with the value of a property
and, for chained references, with the object embedded in one; both may be missing.
-/
import InstanceFilter.Value.Basic

namespace InstanceFilter

class PropertySource (σ : Type) where
  value? : σ → String → Option Value
  /-- The object embedded in a property; the index picks one of an array of objects. -/
  embedded? : σ → String → Option Nat → Option σ

/-! ## Records -/

/-- Values under names that match letter by letter; nothing is embedded in a record. -/
structure Record where
  entries : List (String × Value)

namespace Record

def empty : Record := ⟨[]⟩

/-- The record with a value under a name, in place of any other. -/
def insert (record : Record) (name : String) (value : Value) : Record :=
  ⟨record.entries.filter (·.1 != name) ++ [(name, value)]⟩

def get? (record : Record) (name : String) : Option Value :=
  (record.entries.find? (·.1 == name)).map (·.2)

theorem get?_insert (record : Record) (name : String) (value : Value) (other : String) :
    (record.insert name value).get? other =
      if other = name then some value else record.get? other := by
  unfold insert get?
  rw [List.find?_append]
  by_cases h : other = name
  · subst h
    rw [List.find?_eq_none.2 (by simp)]
    simp
  · have hne : (name == other) = false := by simpa using Ne.symm h
    have : ([(name, value)] : List (String × Value)).find? (·.1 == other) = none := by
      simp [List.find?, hne]
    rw [this, Option.or_none, List.find?_filter, if_neg h]
    congr 2
    funext a
    by_cases ha : a.1 = other <;> simp [ha, h]

end Record

instance : PropertySource Record where
  value? := Record.get?
  embedded? _ _ _ := none

end InstanceFilter
