/-
Reading an object path. Of the outline's quoted values, one that holds an equals sign and itself
reads as a path with keys is a reference to that path, and any other is a string. The bindings are
then put in order, and no name may occur twice.
-/
import InstanceFilter.ObjectPath.Outline

namespace InstanceFilter.ObjectPath

/-- The first name that repeats the one before it. -/
def repeatedName? : List KeyBinding → Option String
  | a :: b :: rest => if Text.sameName a.name b.name then some b.name else repeatedName? (b :: rest)
  | _ => none

/-- The path of an outline whose values are known. -/
def ofOutline (outline : Outline) (keys : List KeyBinding) : Except ObjectPath.Error ObjectPath :=
  let keys := sortBindings keys
  match repeatedName? keys with
  | some name => .error (.duplicateKey name)
  | none => .ok ⟨outline.host, outline.space, outline.className, keys⟩

/-- What a quoted value is, given how its body reads as a path. -/
def quotedValue (body : List Char) (reading : Except ObjectPath.Error ObjectPath) : KeyValue :=
  match reading with
  | .ok path =>
    if body.contains '=' && !path.keys.isEmpty then .reference path else .text (String.ofList body)
  | .error _ => .text (String.ofList body)

def parseChars (text : List Char) : Except ObjectPath.Error ObjectPath :=
  match h : readOutline text with
  | .error e => .error e
  | .ok outline =>
    ofOutline outline <| outline.bindings.attach.map fun ⟨binding, hb⟩ =>
      ⟨binding.name, match hv : binding.value with
        | .plain value => value
        | .quoted body =>
          have : body.length < text.length := by
            have := length_of_mem_readOutline h hb
            simpa [hv, RawValue.length] using this
          quotedValue body (parseChars body)⟩
termination_by text.length

/-- The object path that a text writes. -/
def parse (text : String) : Except ObjectPath.Error ObjectPath := parseChars text.toList

end InstanceFilter.ObjectPath
