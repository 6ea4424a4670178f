/-
Schemas: the classes that are known, each with its key properties, and the namespace that is meant
where none is given. Class and property names match in any case of their ASCII letters, and the
first class of a name is the one that is meant.
-/
import InstanceFilter.ObjectPath.Basic

namespace InstanceFilter

structure ClassInfo where
  name : String
  space : String
  keyProperties : List String
  deriving Repr, DecidableEq

/-- The declared spelling of a key property. -/
def ClassInfo.keyProperty? (info : ClassInfo) (name : String) : Option String :=
  info.keyProperties.find? fun key => Text.sameName key name

structure Schema where
  defaultSpace : String
  classes : List ClassInfo
  deriving Repr, DecidableEq

namespace Schema

def class? (schema : Schema) (name : String) : Option ClassInfo :=
  schema.classes.find? fun info => Text.sameName info.name name

/-- The path in the default namespace if it has none, with the declared spelling of its class. -/
def qualify (schema : Schema) (path : ObjectPath) : ObjectPath :=
  let path := if path.space.isNone then path.inNamespace schema.defaultSpace else path
  match schema.class? path.className with
  | some info => { path with className := info.name }
  | none => path

end Schema

end InstanceFilter
