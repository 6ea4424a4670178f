/-
Resolving operands against a source. A literal stands for itself. A property reference stands for
the value it leads to, through the objects embedded along its chain; whatever fails on the way, an
unknown name, a missing object or an index past the end, leaves it without a value.
-/
import InstanceFilter.Source.Basic
import InstanceFilter.Value.Access

namespace InstanceFilter

variable {σ : Type} [PropertySource σ]

/-- The value of a property, or of one element of it. -/
def lookUp (source : σ) (name : String) (index : Option UInt64) : Option Value := do
  let value ← PropertySource.value? source name
  match index with
  | none => return value
  | some index => (value.element index.toNat).toOption

/-- The object that a link leads to. -/
def follow (source : σ) (link : PropertyRef) : Option σ :=
  PropertySource.embedded? source link.name (link.index.map (·.toNat))

/-- Walks a chain of links from the object that a reference starts with. The last link is read as a
value, those before it lead from object to object, and the chains of links are not followed. -/
def walk (source : σ) (head : PropertyRef) : List Value → Option Value
  | [] => lookUp source head.name head.index
  | link :: rest => do
    let next ← follow source head
    walk next (← link.property?) rest

/-- The value a reference leads to. -/
def PropertyRef.resolve? (source : σ) (ref : PropertyRef) : Option Value :=
  walk source ref ref.chain

/-- An operand with its reference, if it is one, replaced by the value it leads to or by Null. -/
def Value.resolve (source : σ) : Value → Value
  | .property ref => (ref.resolve? source).getD .null
  | literal => literal

end InstanceFilter
