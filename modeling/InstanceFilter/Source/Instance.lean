/-
Instances: objects of a class with named properties, in the order in which they were first set. A
property holds a value, an embedded object or an array of objects, and its name matches in any case
of its ASCII letters.
-/
import InstanceFilter.Source.Basic

namespace InstanceFilter

mutual

inductive Property where
  | value (v : Value)
  | embedded (object : Instance)
  | embeddedArray (objects : List Instance)

structure Instance where
  className : String
  properties : List (String × Property)

end

deriving instance Inhabited for Property, Instance

namespace Instance

def ofClass (className : String) : Instance := ⟨className, []⟩

/-- Properties with one set: the slot and the spelling of the first of that name are kept. -/
def setIn (name : String) (property : Property) :
    List (String × Property) → List (String × Property)
  | [] => [(name, property)]
  | (known, old) :: rest =>
    if Text.sameName known name then (known, property) :: rest
    else (known, old) :: setIn name property rest

def set (object : Instance) (name : String) (property : Property) : Instance :=
  { object with properties := setIn name property object.properties }

/-- The instance without a property, and whether it had it. -/
def remove (object : Instance) (name : String) : Instance × Bool :=
  let kept := object.properties.filter fun (known, _) => !Text.sameName known name
  ({ object with properties := kept }, kept.length != object.properties.length)

def names (object : Instance) : List String := object.properties.map (·.1)

def find? (object : Instance) (name : String) : Option Property :=
  (object.properties.find? fun (known, _) => Text.sameName known name).map (·.2)

/-- Setting a property decides what is found under every spelling of its name, and nothing else. -/
theorem find?_set (object : Instance) (name : String) (property : Property) (other : String) :
    (object.set name property).find? other =
      if Text.sameName name other then some property else object.find? other := by
  simp only [set, find?]
  induction object.properties with
  | nil => simp only [setIn, List.find?]; split <;> simp_all
  | cons slot rest ih =>
    obtain ⟨known, old⟩ := slot
    simp only [setIn]
    split
    · next hk =>
      simp only [List.find?, Text.sameName_left_congr hk]
      split <;> simp_all
    · next hk =>
      by_cases ho : Text.sameName known other
      · have : Text.sameName name other = false := by
          rw [Bool.eq_false_iff]
          intro hn
          exact hk (Text.sameName_trans ho (by rwa [Text.sameName_comm]))
        simp [List.find?, ho, this]
      · simp only [List.find?, ho]
        exact ih

/-- A removed property is found under no spelling of its name, and every other one still is. -/
theorem find?_remove (object : Instance) (name other : String) :
    (object.remove name).1.find? other =
      if Text.sameName name other then none else object.find? other := by
  simp only [remove, find?, List.find?_filter]
  by_cases h : Text.sameName name other
  · rw [if_pos h, List.find?_eq_none.2, Option.map_none]
    rintro ⟨known, property⟩ -
    simp only [Bool.decide_and, Bool.not_eq_true', Bool.and_eq_true, decide_eq_true_eq, not_and]
    intro hk hko
    have := Text.sameName_trans hko (by rwa [Text.sameName_comm] : Text.sameName other name = true)
    simp [hk] at this
  · rw [if_neg h]
    congr 2
    funext ⟨known, property⟩
    by_cases hk : Text.sameName known other <;> simp [hk]
    rw [Bool.eq_false_iff]
    intro hn
    exact h (Text.sameName_trans (by rwa [Text.sameName_comm]) hk)

/-- Only a plain property has a value. -/
def value? (object : Instance) (name : String) : Option Value :=
  match object.find? name with
  | some (.value v) => some v
  | _ => none

/-- One object is reached without an index, an array of objects only with one. -/
def embedded? (object : Instance) (name : String) (index : Option Nat) : Option Instance :=
  match object.find? name, index with
  | some (.embedded inner), none => some inner
  | some (.embeddedArray objects), some index => objects[index]?
  | _, _ => none

end Instance

instance : PropertySource Instance where
  value? := Instance.value?
  embedded? := Instance.embedded?

end InstanceFilter
