/-
Coercion: a text, or an array of texts, can be read as date-times or as references. No other
conversion is permitted, and an array stays an array.
-/
import InstanceFilter.Value.Error
import InstanceFilter.DateTime.Parser
import InstanceFilter.ObjectPath.Parser

namespace InstanceFilter

/-- The kinds a kind can be read as, itself aside. -/
def Kind.coercions : Kind → List Kind
  | .string => [.dateTime, .reference]
  | _ => []

namespace Value

def readDateTime (text : String) : Except ValueError DateTime :=
  (DateTime.parse text).mapError (.unreadableDateTime text)

def readReference (text : String) : Except ValueError ObjectPath :=
  (ObjectPath.parse text).mapError (.unreadableReference text)

def canCoerce (v : Value) (target : Kind) : Bool := v.kind.coercions.contains target

/-- The value as one of the target kind; the first text that does not read is reported. -/
def coerce (v : Value) (target : Kind) : Except ValueError Value :=
  if v.kind = target then .ok v
  else if !v.canCoerce target then .error (.wrongType target.scalar v.type)
  else match v, target with
    | .string text, .dateTime => (readDateTime text).map .dateTime
    | .string text, .reference => (readReference text).map .reference
    | .array (.string items), .dateTime =>
      (items.mapM readDateTime).map fun items => .array (.dateTime items)
    | .array (.string items), .reference =>
      (items.mapM readReference).map fun items => .array (.reference items)
    | _, _ => .error (.wrongType target.scalar v.type)

end Value

end InstanceFilter
