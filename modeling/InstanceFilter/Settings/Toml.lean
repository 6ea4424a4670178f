/-
Settings from a TOML document. Every setting may be left out and has its default then; keys that
are no settings are ignored.
-/
import InstanceFilter.Settings.Basic
import InstanceFilter.Toml.Document

namespace InstanceFilter.Settings

/-- A limit is a whole number of 64 bits without sign. -/
def tomlLimit? : Toml.Node → Option UInt64
  | .value (.integer n) => if 0 ≤ n ∧ n < UInt64.size then some n.toNat.toUInt64 else none
  | _ => none

def tomlFlag? : Toml.Node → Option Bool
  | .value (.boolean b) => some b
  | _ => none

/-- The setting under a key, or its default where the key is missing. -/
def tomlSetting? {α : Type} (read : Toml.Node → Option α) (default : α) (entries : Toml.Entries)
    (key : String) : Option α :=
  match entries.find? key with
  | some node => read node
  | none => some default

def ofToml? (entries : Toml.Entries) : Option Settings := do
  return {
    patternSizeLimit :=
      ← tomlSetting? tomlLimit? default.patternSizeLimit entries "pattern_size_limit"
    caseInsensitiveLike :=
      ← tomlSetting? tomlFlag? default.caseInsensitiveLike entries "case_insensitive_like"
    maxOperations :=
      ← tomlSetting? (fun node => (tomlLimit? node).map some) default.maxOperations entries
        "max_operations" }

/-- The valid settings that a document writes. -/
def fromToml (text : String) : Except SettingsError Settings :=
  match (Toml.read? text).bind ofToml? with
  | some settings => settings.validate
  | none => .error .unreadable

end InstanceFilter.Settings
