/-
Building the path of an instance from a class name and values for its keys. Every key property of
the class must be bound, and each once; class and keys take their declared spelling.
-/
import InstanceFilter.DateTime.Printer
import InstanceFilter.Schema.Basic
import InstanceFilter.Value.Basic

namespace InstanceFilter

/-- What a path is to be built from. -/
structure PathRequest where
  className : String
  host : Option String
  space : Option String
  keys : List (String × Value)

inductive SchemaError where
  | unknownClass (name : String)
  | notAKey (className property : String)
  | missingKey (className property : String)
  | invalidKeyValue (property : String) (found : ValueType)
  | duplicateKey (className property : String)
  | hostWithoutNamespace (host : String)
  deriving Repr, DecidableEq

def SchemaError.message : SchemaError → String
  | .unknownClass name => "unknown class '" ++ name ++ "'"
  | .notAKey className property => "'" ++ property ++ "' is not a key property of " ++ className
  | .missingKey className property =>
    "key property '" ++ property ++ "' of " ++ className ++ " has no value"
  | .invalidKeyValue property found =>
    "key property '" ++ property ++ "' cannot hold a " ++ found.name ++ " value"
  | .duplicateKey className property =>
    "key property '" ++ property ++ "' of " ++ className ++ " is bound more than once"
  | .hostWithoutNamespace host => "host '" ++ host ++ "' requires a namespace"

/-- The key value of a scalar; a date-time is bound as its text. -/
def Value.keyValue? : Value → Option KeyValue
  | .integer n => some (.integer (.ofInt64 n))
  | .boolean b => some (.boolean b)
  | .string s => some (.text s)
  | .dateTime d => some (.text d.toText)
  | .reference path => some (.reference path)
  | _ => none

namespace Schema

/-- The path of a class, before its keys, at the host and namespace asked for. -/
def locate (schema : Schema) (info : ClassInfo) (request : PathRequest) :
    Except SchemaError ObjectPath :=
  let space := request.space.getD schema.defaultSpace
  match request.host with
  | some host =>
    ((ObjectPath.ofClass info.name).atLocation host space).mapError fun _ =>
      .hostWithoutNamespace host
  | none => .ok ((ObjectPath.ofClass info.name).inNamespace space)

/-- The path with one more key of a class bound. -/
def bindKey (info : ClassInfo) (path : ObjectPath) (key : String × Value) :
    Except SchemaError ObjectPath :=
  match info.keyProperty? key.1 with
  | none => .error (.notAKey info.name key.1)
  | some declared =>
    if (path.key? declared).isSome then .error (.duplicateKey info.name declared)
    else match key.2.keyValue? with
      | none => .error (.invalidKeyValue declared key.2.type)
      | some value => .ok (path.withKey declared value)

/-- The path that is asked for. -/
def build (schema : Schema) (request : PathRequest) : Except SchemaError ObjectPath := do
  let some info := schema.class? request.className
    | .error (.unknownClass request.className)
  let path ← schema.locate info request
  let path ← request.keys.foldlM (bindKey info) path
  match info.keyProperties.find? fun key => (path.key? key).isNone with
  | some missing => .error (.missingKey info.name missing)
  | none => return path

end Schema

end InstanceFilter
