/-
Kinds of values. A kind names what a scalar is, or what the elements of an array are; a value type
is a kind with the mark of an array.
-/

namespace InstanceFilter

inductive Kind where
  | null | integer | double | boolean | string | dateTime | reference | propertyName
  deriving Repr, DecidableEq

namespace Kind

def label : Kind → String
  | .null => "Null"
  | .integer => "Integer"
  | .double => "Double"
  | .boolean => "Boolean"
  | .string => "String"
  | .dateTime => "DateTime"
  | .reference => "Reference"
  | .propertyName => "PropertyName"

def all : List Kind :=
  [.null, .integer, .double, .boolean, .string, .dateTime, .reference, .propertyName]

/-- The kind of a label. -/
def ofLabel? (label : String) : Option Kind := all.find? (·.label == label)

/-- Kinds of which an array can be made. -/
def isElement : Kind → Bool
  | .null | .propertyName => false
  | _ => true

/-- Kinds whose scalars have an order. -/
def isOrdered : Kind → Bool
  | .integer | .double | .string | .dateTime => true
  | _ => false

end Kind

structure ValueType where
  kind : Kind
  isArray : Bool
  deriving Repr, DecidableEq

def Kind.scalar (kind : Kind) : ValueType := ⟨kind, false⟩

def Kind.array (kind : Kind) : ValueType := ⟨kind, true⟩

def ValueType.name (t : ValueType) : String :=
  if t.isArray then t.kind.label ++ "[]" else t.kind.label

end InstanceFilter
