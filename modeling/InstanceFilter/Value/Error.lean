/-
What can go wrong when a value is read as something it is not.
-/
import InstanceFilter.Value.Basic

namespace InstanceFilter

inductive ValueError where
  | wrongType (expected found : ValueType)
  /-- An element was asked of a scalar. -/
  | notArray (found : ValueType)
  /-- A value of this type is no element of an array. -/
  | notElement (found : ValueType)
  | unreadableDateTime (text : String) (cause : DateTime.Error)
  | unreadableReference (text : String) (cause : ObjectPath.Error)
  | indexOutOfBounds (index size : Nat)
  | emptyArray
  | mixedKinds (index : Nat) (expected found : Kind)
  deriving Repr, DecidableEq

namespace ValueError

private def mismatch (expected found : String) : String :=
  "type mismatch: expected " ++ expected ++ ", found " ++ found

def message : ValueError → String
  | .wrongType expected found => mismatch expected.name found.name
  | .notArray found => mismatch "array" found.name
  | .notElement found => mismatch "scalar array element" found.name
  | .unreadableDateTime text cause =>
    mismatch Kind.dateTime.label ("'" ++ text ++ "' (" ++ cause.message ++ ")")
  | .unreadableReference text cause =>
    mismatch Kind.reference.label ("'" ++ text ++ "' (" ++ cause.message ++ ")")
  | .indexOutOfBounds index size =>
    "index " ++ toString index ++ " out of bounds for array of length " ++ toString size
  | .emptyArray => "array literal must contain at least one element"
  | .mixedKinds index expected found =>
    "array literal element " ++ toString index ++ " is " ++ found.label ++ ", expected " ++
      expected.label

end ValueError

end InstanceFilter
