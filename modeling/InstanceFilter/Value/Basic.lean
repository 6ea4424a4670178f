/-
Values: literals, property values and operands of a filter program. An array holds scalars of one
kind. A property reference names a property of the object under test, with an index into an array
and a chain of links into embedded objects; it has no value until it is resolved.
-/
import InstanceFilter.Kind
import InstanceFilter.DateTime.Basic
import InstanceFilter.ObjectPath.Basic

namespace InstanceFilter

inductive ArrayValue where
  | integer (items : List Int64)
  | double (items : List Float)
  | boolean (items : List Bool)
  | string (items : List String)
  | dateTime (items : List DateTime)
  | reference (items : List ObjectPath)

mutual

inductive Value where
  | null
  | integer (n : Int64)
  | double (x : Float)
  | boolean (b : Bool)
  | string (s : String)
  | dateTime (d : DateTime)
  | reference (path : ObjectPath)
  | property (ref : PropertyRef)
  | array (items : ArrayValue)

structure PropertyRef where
  name : String
  index : Option UInt64
  chain : List Value

end

deriving instance Inhabited for Value, PropertyRef

/-! ## Arrays -/

namespace ArrayValue

def kind : ArrayValue → Kind
  | .integer _ => .integer
  | .double _ => .double
  | .boolean _ => .boolean
  | .string _ => .string
  | .dateTime _ => .dateTime
  | .reference _ => .reference

/-- The elements, each as a scalar. -/
def elements : ArrayValue → List Value
  | .integer items => items.map .integer
  | .double items => items.map .double
  | .boolean items => items.map .boolean
  | .string items => items.map .string
  | .dateTime items => items.map .dateTime
  | .reference items => items.map .reference

def size : ArrayValue → Nat
  | .integer items => items.length
  | .double items => items.length
  | .boolean items => items.length
  | .string items => items.length
  | .dateTime items => items.length
  | .reference items => items.length

def get? (items : ArrayValue) (index : Nat) : Option Value := items.elements[index]?

@[simp] theorem length_elements (items : ArrayValue) : items.elements.length = items.size := by
  cases items <;> simp [elements, size]

end ArrayValue

/-! ## Scalars and arrays alike -/

namespace Value

/-- The kind of a scalar, or of the elements of an array. -/
def kind : Value → Kind
  | .null => .null
  | .integer _ => .integer
  | .double _ => .double
  | .boolean _ => .boolean
  | .string _ => .string
  | .dateTime _ => .dateTime
  | .reference _ => .reference
  | .property _ => .propertyName
  | .array items => items.kind

def isNull : Value → Bool
  | .null => true
  | _ => false

def isArray : Value → Bool
  | .array _ => true
  | _ => false

def type (v : Value) : ValueType := ⟨v.kind, v.isArray⟩

/-- The number of elements of an array; a scalar has no size. -/
def size? : Value → Option Nat
  | .array items => some items.size
  | _ => none

def property? : Value → Option PropertyRef
  | .property ref => some ref
  | _ => none

end Value

namespace PropertyRef

def ofName (name : String) : PropertyRef := ⟨name, none, []⟩

/-- The reference with one more link at the end of its chain. -/
def linked (ref : PropertyRef) (link : Value) : PropertyRef :=
  { ref with chain := ref.chain ++ [link] }

end PropertyRef

end InstanceFilter
