/-
Reading a value as one of a given kind: a scalar, the list of an array, or one element of an array.
An index past the end of an array is told apart from a value of another kind.
-/
import InstanceFilter.Value.Error

namespace InstanceFilter

/-- The type of the payload of a kind; the kinds that no array holds carry nothing. -/
@[reducible] def Kind.Payload : Kind → Type
  | .integer => Int64
  | .double => Float
  | .boolean => Bool
  | .string => String
  | .dateTime => DateTime
  | .reference => ObjectPath
  | .null | .propertyName => Empty

namespace Value

/-- The payload of a scalar of a kind. -/
def payload? : (kind : Kind) → Value → Option kind.Payload
  | .integer, .integer n => some n
  | .double, .double x => some x
  | .boolean, .boolean b => some b
  | .string, .string s => some s
  | .dateTime, .dateTime d => some d
  | .reference, .reference path => some path
  | _, _ => none

/-- The payloads of an array of a kind. -/
def payloads? : (kind : Kind) → Value → Option (List kind.Payload)
  | .integer, .array (.integer items) => some items
  | .double, .array (.double items) => some items
  | .boolean, .array (.boolean items) => some items
  | .string, .array (.string items) => some items
  | .dateTime, .array (.dateTime items) => some items
  | .reference, .array (.reference items) => some items
  | _, _ => none

def asScalar (kind : Kind) (v : Value) : Except ValueError kind.Payload :=
  match v.payload? kind with
  | some payload => .ok payload
  | none => .error (.wrongType kind.scalar v.type)

def asArray (kind : Kind) (v : Value) : Except ValueError (List kind.Payload) :=
  match v.payloads? kind with
  | some payloads => .ok payloads
  | none => .error (.wrongType kind.array v.type)

def elementAs (kind : Kind) (v : Value) (index : Nat) : Except ValueError kind.Payload := do
  let items ← v.asArray kind
  match items[index]? with
  | some payload => .ok payload
  | none => .error (.indexOutOfBounds index items.length)

/-- One element of an array, of whatever kind, as a scalar. -/
def element (v : Value) (index : Nat) : Except ValueError Value :=
  match v with
  | .array items =>
    match items.get? index with
    | some value => .ok value
    | none => .error (.indexOutOfBounds index items.size)
  | other => .error (.notArray other.type)

/-! ## Arrays from scalars -/

/-- The array of payloads of a kind. -/
def ofPayloads : (kind : Kind) → List kind.Payload → Option Value
  | .integer, items => some (.array (.integer items))
  | .double, items => some (.array (.double items))
  | .boolean, items => some (.array (.boolean items))
  | .string, items => some (.array (.string items))
  | .dateTime, items => some (.array (.dateTime items))
  | .reference, items => some (.array (.reference items))
  | .null, _ | .propertyName, _ => none

/-- The first place, counted from `index`, where a value is not a scalar of the kind. -/
def firstForeign? (kind : Kind) (index : Nat) : List Value → Option (Nat × Value)
  | [] => none
  | v :: rest =>
    if v.isArray || v.kind != kind then some (index, v) else firstForeign? kind (index + 1) rest

/-- The array of scalars that are all of one kind; the first one sets the kind. -/
def ofScalars : List Value → Except ValueError Value
  | [] => .error .emptyArray
  | first :: rest =>
    if first.isArray || !first.kind.isElement then .error (.notElement first.type)
    else match firstForeign? first.kind 1 rest with
      | some (index, v) => .error (.mixedKinds index first.kind v.kind)
      | none => do
        let items ← (first :: rest).mapM (asScalar first.kind)
        match ofPayloads first.kind items with
        | some value => .ok value
        | none => .error (.notElement first.kind.scalar)

end Value

end InstanceFilter
