/-
Restoring what was persisted. A structure is read from a record, whose unknown fields are ignored,
or from the list of its fields in order; a variant without content is read from its name, alone or
as the one field of a record over null. The first fault in the order of the document is reported,
and a missing field after those. Settings are validated as they are restored.
-/
import InstanceFilter.DateTime.Parser
import InstanceFilter.ObjectPath.Parser
import InstanceFilter.Persisted.Document
import InstanceFilter.Persisted.Tag

namespace InstanceFilter

inductive RestoreError where
  /-- The document does not have the shape of what is restored. -/
  | malformed
  | dateTime (cause : DateTime.Error)
  | objectPath (cause : ObjectPath.Error)
  | settings (fault : Settings.Fault)
  deriving Repr, DecidableEq

/-- The message of a fault in a text or in settings; a wrong shape has none. -/
def RestoreError.message? : RestoreError → Option String
  | .malformed => none
  | .dateTime cause => some cause.message
  | .objectPath cause => some cause.message
  | .settings fault => some fault.message

abbrev Restored := Except RestoreError

namespace Restored

/-- What is there, or the report of a wrong shape. -/
def need {α : Type} : Option α → Restored α
  | some a => .ok a
  | none => .error .malformed

end Restored

open Restored

namespace Document

/-! ## Plain documents -/

def toText : Document → Restored String
  | .text s => .ok s
  | _ => .error .malformed

def toBool : Document → Restored Bool
  | .boolean b => .ok b
  | _ => .error .malformed

def toInt64 : Document → Restored Int64
  | .integer n =>
    if Int64.minValue.toInt ≤ n ∧ n ≤ Int64.maxValue.toInt then .ok (Int64.ofInt n)
    else .error .malformed
  | _ => .error .malformed

def toSize : Document → Restored UInt64
  | .integer n => if 0 ≤ n ∧ n < UInt64.size then .ok n.toNat.toUInt64 else .error .malformed
  | _ => .error .malformed

/-- A whole number is read as the nearest double. -/
def toDouble : Document → Restored Float
  | .decimal x => .ok x
  | .integer n => .ok (Float.ofInt n)
  | _ => .error .malformed

def toDateTime (document : Document) : Restored DateTime := do
  (DateTime.parse (← document.toText)).mapError .dateTime

def toObjectPath (document : Document) : Restored ObjectPath := do
  (ObjectPath.parse (← document.toText)).mapError .objectPath

def toOption {α : Type} (item : Document → Restored α) : Document → Restored (Option α)
  | .null => .ok none
  | document => (item document).map some

def toList {α : Type} (item : Document → Restored α) : Document → Restored (List α)
  | .list items => items.mapM item
  | _ => .error .malformed

/-- The name of a variant and its content, which is null where only the name is given. -/
def toVariant : Document → Restored (String × Option Document)
  | .text tag => .ok (tag, none)
  | .record [⟨tag, content⟩] => .ok (tag, some content)
  | _ => .error .malformed

/-- A variant without content. -/
def toUnit {α : Type} (ofTag? : String → Option α) (document : Document) : Restored α := do
  let (tag, content) ← document.toVariant
  let a ← need (ofTag? tag)
  match content with
  | none | some .null => return a
  | some _ => .error .malformed

end Document

open Document

/-! ## Values -/

def ArrayValue.ofDocument (document : Document) : Restored ArrayValue := do
  match ← document.toVariant with
  | ("Integer", some content) => return .integer (← content.toList toInt64)
  | ("Double", some content) => return .double (← content.toList toDouble)
  | ("Boolean", some content) => return .boolean (← content.toList toBool)
  | ("String", some content) => return .string (← content.toList toText)
  | ("DateTime", some content) => return .dateTime (← content.toList toDateTime)
  | ("Reference", some content) => return .reference (← content.toList toObjectPath)
  | _ => .error .malformed

/-- The fields of a property reference that have been read. -/
structure PropertyRef.Draft where
  name : Option String
  index : Option (Option UInt64)
  chain : Option (List Value)

/-- The reference of a draft; only the index may be missing. -/
def PropertyRef.Draft.finish (draft : Draft) : Restored PropertyRef := do
  return ⟨← need draft.name, draft.index.getD none, ← need draft.chain⟩

mutual

def Value.ofDocument : Document → Restored Value
  | .text tag => if tag = "Null" then .ok .null else .error .malformed
  | .record [⟨tag, content⟩] =>
    match tag with
    | "Null" => match content with
      | .null => .ok .null
      | _ => .error .malformed
    | "Integer" => content.toInt64.map .integer
    | "Double" => content.toDouble.map .double
    | "Boolean" => content.toBool.map .boolean
    | "String" => content.toText.map .string
    | "DateTime" => content.toDateTime.map .dateTime
    | "Reference" => content.toObjectPath.map .reference
    | "PropertyName" => (PropertyRef.ofDocument content).map .property
    | "Array" => (ArrayValue.ofDocument content).map .array
    | _ => .error .malformed
  | _ => .error .malformed

def PropertyRef.ofDocument : Document → Restored PropertyRef
  | .record fields => do
    let draft ← readPropertyFields ⟨none, none, none⟩ fields
    draft.finish
  | .list (name :: index :: .list chain :: rest) => do
    let ref : PropertyRef :=
      ⟨← name.toText, ← index.toOption toSize, ← valuesOfDocuments chain⟩
    if rest.isEmpty then return ref else .error .malformed
  | _ => .error .malformed

def readPropertyFields (draft : PropertyRef.Draft) : List Field → Restored PropertyRef.Draft
  | [] => .ok draft
  | ⟨name, value⟩ :: rest => do
    let draft ← match name with
      | "name" => do pure { draft with name := some (← value.toText) }
      | "index" => do pure { draft with index := some (← value.toOption toSize) }
      | "chain" => match value with
        | .list chain => do pure { draft with chain := some (← valuesOfDocuments chain) }
        | _ => .error .malformed
      | _ => pure draft
    readPropertyFields draft rest

def valuesOfDocuments : List Document → Restored (List Value)
  | [] => .ok []
  | document :: rest => do
    let v ← Value.ofDocument document
    return v :: (← valuesOfDocuments rest)

end

/-! ## Structures -/

/-- Reads the fields of a structure in the order of a document: those of a record by their names,
those of a list by the names in order. A list may not have more items than there are names. -/
def readFields {δ : Type} (names : List String) (read : δ → String → Document → Restored δ)
    (draft : δ) : Document → Restored δ
  | .record fields => fields.foldlM (fun draft field => read draft field.name field.value) draft
  | .list items => do
    let draft ← (names.zip items).foldlM (fun draft (name, item) => read draft name item) draft
    if items.length > names.length then .error .malformed else return draft
  | _ => .error .malformed

def Operator.ofDocument (document : Document) : Restored Operator := document.toUnit Operator.ofTag?

structure Program.Draft where
  operands : Option (List Value)
  operations : Option (List Operator)
  propertyNames : Option (List String)

def Program.ofDocument (document : Document) : Restored Program := do
  let read (draft : Program.Draft) (name : String) (value : Document) : Restored Program.Draft :=
    match name with
    | "operands" => do return { draft with operands := some (← value.toList Value.ofDocument) }
    | "operations" => do
      return { draft with operations := some (← value.toList Operator.ofDocument) }
    | "property_names" => do return { draft with propertyNames := some (← value.toList toText) }
    | _ => .ok draft
  let draft ←
    readFields ["operands", "operations", "property_names"] read ⟨none, none, none⟩ document
  return ⟨← need draft.operands, ← need draft.operations, ← need draft.propertyNames⟩

/-- Settings before they are validated; what is missing has its default. -/
def Settings.readDocument (document : Document) : Restored Settings :=
  let read (settings : Settings) (name : String) (value : Document) : Restored Settings :=
    match name with
    | "pattern_size_limit" => do return { settings with patternSizeLimit := ← value.toSize }
    | "case_insensitive_like" => do return { settings with caseInsensitiveLike := ← value.toBool }
    | "max_operations" => do return { settings with maxOperations := ← value.toOption toSize }
    | _ => .ok settings
  readFields ["pattern_size_limit", "case_insensitive_like", "max_operations"] read .default
    document

def Settings.ofDocument (document : Document) : Restored Settings := do
  let settings ← readDocument document
  match settings.fault? with
  | some fault => .error (.settings fault)
  | none => return settings

structure Filter.Draft where
  query : Option String
  program : Option Program
  settings : Settings

def Filter.ofDocument (document : Document) : Restored Filter := do
  let read (draft : Filter.Draft) (name : String) (value : Document) : Restored Filter.Draft :=
    match name with
    | "query" => do return { draft with query := some (← value.toText) }
    | "program" => do return { draft with program := some (← Program.ofDocument value) }
    | "config" => do return { draft with settings := ← Settings.ofDocument value }
    | _ => .ok draft
  let draft ← readFields ["query", "program", "config"] read ⟨none, none, .default⟩ document
  return ⟨← need draft.query, ← need draft.program, draft.settings⟩

structure ClassInfo.Draft where
  name : Option String
  space : Option String
  keyProperties : Option (List String)

def ClassInfo.ofDocument (document : Document) : Restored ClassInfo := do
  let read (draft : ClassInfo.Draft) (name : String) (value : Document) :
      Restored ClassInfo.Draft :=
    match name with
    | "name" => do return { draft with name := some (← value.toText) }
    | "namespace" => do return { draft with space := some (← value.toText) }
    | "key_properties" => do return { draft with keyProperties := some (← value.toList toText) }
    | _ => .ok draft
  let draft ← readFields ["name", "namespace", "key_properties"] read ⟨none, none, none⟩ document
  return ⟨← need draft.name, ← need draft.space, ← need draft.keyProperties⟩

/-! ## Failures -/

def FailureKind.ofDocument (document : Document) : Restored FailureKind := do
  match ← document.toVariant with
  | ("Filter", some content) =>
    return .filter (← content.toUnit (ofTag? FilterFault.all FilterFault.tag))
  | ("Config", none) | ("Config", some .null) => return .config
  | ("Path", none) | ("Path", some .null) => return .path
  | ("Parse", none) | ("Parse", some .null) => return .parse
  | _ => .error .malformed

structure Failure.Draft where
  kind : Option FailureKind
  origin : Option FailureOrigin
  message : Option String

def Failure.ofDocument (document : Document) : Restored Failure := do
  let read (draft : Failure.Draft) (name : String) (value : Document) : Restored Failure.Draft :=
    match name with
    | "kind" => do return { draft with kind := some (← FailureKind.ofDocument value) }
    | "origin" => do
      let origin ← value.toUnit (ofTag? FailureOrigin.all FailureOrigin.tag)
      return { draft with origin := some origin }
    | "message" => do return { draft with message := some (← value.toText) }
    | _ => .ok draft
  let draft ← readFields ["kind", "origin", "message"] read ⟨none, none, none⟩ document
  return ⟨← need draft.kind, ← need draft.origin, ← need draft.message⟩

end InstanceFilter
