/-
The text of a value: its type, a colon and its payload. Strings are quoted, doubles have the fewest
digits that read back, and an array lists its elements in braces.
-/
import InstanceFilter.Value.Basic
import InstanceFilter.DateTime.Printer
import InstanceFilter.Decimal.Layout
import InstanceFilter.ObjectPath.Printer
import InstanceFilter.Text.Quoted

namespace InstanceFilter

/-- Doubles have an exponent from `1e16` upwards and below `1e-4`. -/
def Value.doubleLayout : Decimal.Layout := ⟨16, -4, "NaN", "inf"⟩

namespace ArrayValue

def renderList {α : Type} (item : α → List Char) (items : List α) : List Char :=
  '\x7b' :: [',', ' '].intercalate (items.map item) ++ ['\x7d']

def render : ArrayValue → List Char
  | .integer items => renderList (fun n => Text.signed n.toInt) items
  | .double items => renderList Value.doubleLayout.double items
  | .boolean items => renderList (fun b => (toString b).toList) items
  | .string items => renderList (fun s => Text.quote s.toList) items
  | .dateTime items => renderList DateTime.render items
  | .reference items => renderList ObjectPath.render items

end ArrayValue

mutual

def Value.render : Value → List Char
  | .null => "Null: NULL".toList
  | .integer n => "Integer: ".toList ++ Text.signed n.toInt
  | .double x => "Double: ".toList ++ Value.doubleLayout.double x
  | .boolean b => "Boolean: ".toList ++ (toString b).toList
  | .string s => "String: ".toList ++ Text.quote s.toList
  | .dateTime d => "DateTime: ".toList ++ d.render
  | .reference path => "Reference: ".toList ++ path.render
  | .property ref => "PropertyName: ".toList ++ ref.render
  | .array items => items.kind.array.name.toList ++ ": ".toList ++ items.render

/-- A reference is printed as its name, its index in brackets and its links, each after a point. -/
def PropertyRef.render : PropertyRef → List Char
  | ⟨name, index, chain⟩ =>
    name.toList ++
    (match index with
      | some index => '[' :: Text.signed index.toNat ++ [']']
      | none => []) ++
    renderChain chain

/-- A link that is no property reference stands in angle brackets. -/
def renderChain : List Value → List Char
  | [] => []
  | .property ref :: rest => '.' :: ref.render ++ renderChain rest
  | link :: rest => '.' :: '<' :: link.render ++ '>' :: renderChain rest

end

def Value.toText (v : Value) : String := String.ofList v.render

def PropertyRef.toText (ref : PropertyRef) : String := String.ofList ref.render

end InstanceFilter
