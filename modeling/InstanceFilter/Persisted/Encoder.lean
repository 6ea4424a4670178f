/-
Writing what is persisted. Date-times and object paths are persisted as their texts, and a double
that is not finite as null.
-/
import InstanceFilter.ObjectPath.Printer
import InstanceFilter.Persisted.Document
import InstanceFilter.Persisted.Tag

namespace InstanceFilter

open Document

def Document.ofDouble (x : Float) : Document := if x.isFinite then .decimal x else .null

def ArrayValue.toDocument : ArrayValue → Document
  | .integer items => variant "Integer" (ofList items fun n => .integer n.toInt)
  | .double items => variant "Double" (ofList items ofDouble)
  | .boolean items => variant "Boolean" (ofList items .boolean)
  | .string items => variant "String" (ofList items .text)
  | .dateTime items => variant "DateTime" (ofList items fun d => .text d.toText)
  | .reference items => variant "Reference" (ofList items fun path => .text path.toText)

mutual

def Value.toDocument : Value → Document
  | .null => .text "Null"
  | .integer n => variant "Integer" (.integer n.toInt)
  | .double x => variant "Double" (ofDouble x)
  | .boolean b => variant "Boolean" (.boolean b)
  | .string s => variant "String" (.text s)
  | .dateTime d => variant "DateTime" (.text d.toText)
  | .reference path => variant "Reference" (.text path.toText)
  | .property ref => variant "PropertyName" ref.toDocument
  | .array items => variant "Array" items.toDocument

def PropertyRef.toDocument : PropertyRef → Document
  | ⟨name, index, chain⟩ =>
    .record [⟨"name", .text name⟩, ⟨"index", ofOption index fun index => .integer index.toNat⟩,
      ⟨"chain", .list (valuesToDocuments chain)⟩]

def valuesToDocuments : List Value → List Document
  | [] => []
  | v :: rest => v.toDocument :: valuesToDocuments rest

end

def Operator.toDocument (op : Operator) : Document := .text op.tag

def Program.toDocument (program : Program) : Document :=
  .record [⟨"operands", .list (valuesToDocuments program.operands)⟩,
    ⟨"operations", ofList program.operations Operator.toDocument⟩,
    ⟨"property_names", ofList program.propertyNames .text⟩]

def Settings.toDocument (settings : Settings) : Document :=
  .record [⟨"pattern_size_limit", .integer settings.patternSizeLimit.toNat⟩,
    ⟨"case_insensitive_like", .boolean settings.caseInsensitiveLike⟩,
    ⟨"max_operations", ofOption settings.maxOperations fun limit => .integer limit.toNat⟩]

def Filter.toDocument (filter : Filter) : Document :=
  .record [⟨"query", .text filter.query⟩, ⟨"program", filter.program.toDocument⟩,
    ⟨"config", filter.settings.toDocument⟩]

def ClassInfo.toDocument (info : ClassInfo) : Document :=
  .record [⟨"name", .text info.name⟩, ⟨"namespace", .text info.space⟩,
    ⟨"key_properties", ofList info.keyProperties .text⟩]

def FailureKind.toDocument : FailureKind → Document
  | .filter fault => variant "Filter" (.text fault.tag)
  | .config => .text "Config"
  | .path => .text "Path"
  | .parse => .text "Parse"

def Failure.toDocument (failure : Failure) : Document :=
  .record [⟨"kind", failure.kind.toDocument⟩, ⟨"origin", .text failure.origin.tag⟩,
    ⟨"message", .text failure.message⟩]

end InstanceFilter
