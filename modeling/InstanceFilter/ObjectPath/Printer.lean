/-
The text form of an object path: `//host/namespace:Class.key="text",other=5,flag=TRUE`, where a
reference stands in quotes like a string.
-/
import InstanceFilter.ObjectPath.Quoted

namespace InstanceFilter

/-- A number in base ten, with a minus sign before it when it is negative. -/
def Text.signed (n : Int) : List Char := (toString n).toList

mutual

def KeyValue.render : KeyValue → List Char
  | .text s => ObjectPath.quoted s.toList
  | .boolean true => "TRUE".toList
  | .boolean false => "FALSE".toList
  | .integer n => Text.signed n.toInt
  | .reference path => ObjectPath.quoted path.render

def ObjectPath.render : ObjectPath → List Char
  | ⟨host, space, className, keys⟩ =>
    (match host with
      | some host => '/' :: '/' :: host.toList ++ ['/']
      | none => []) ++
    (match space with
      | some space => space.toList ++ [':']
      | none => []) ++
    className.toList ++ renderBindings '.' keys

/-- The bindings with a separator before the first and commas between them. -/
def renderBindings (separator : Char) : List KeyBinding → List Char
  | [] => []
  | ⟨name, value⟩ :: rest =>
    separator :: name.toList ++ '=' :: value.render ++ renderBindings ',' rest

end

def ObjectPath.toText (path : ObjectPath) : String := String.ofList path.render

end InstanceFilter
