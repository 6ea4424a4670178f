/-
Settings of an evaluation: the size limit of compiled patterns in bytes, whether LIKE ignores case,
and the greatest number of operations of a program. A limit of zero is refused.
-/

namespace InstanceFilter

structure Settings where
  patternSizeLimit : UInt64
  caseInsensitiveLike : Bool
  maxOperations : Option UInt64
  deriving Repr, DecidableEq

/-- A limit that no program or pattern could meet. -/
inductive Settings.Fault where
  | zeroPatternSizeLimit
  | zeroMaxOperations
  deriving Repr, DecidableEq

inductive SettingsError where
  /-- The document is malformed, or a setting in it has the wrong type. -/
  | unreadable
  | invalid (fault : Settings.Fault)
  deriving Repr, DecidableEq

def Settings.Fault.message : Settings.Fault → String
  | .zeroPatternSizeLimit => "invalid evaluator config: pattern_size_limit cannot be 0"
  | .zeroMaxOperations => "invalid evaluator config: max_operations cannot be 0"

namespace Settings

/-- One mebibyte for patterns, case matters, and any number of operations. -/
def default : Settings := ⟨1048576, false, none⟩

instance : Inhabited Settings := ⟨default⟩

/-- The first limit that is zero. -/
def fault? (settings : Settings) : Option Fault :=
  if settings.patternSizeLimit = 0 then some .zeroPatternSizeLimit
  else if settings.maxOperations = some 0 then some .zeroMaxOperations
  else none

def validate (settings : Settings) : Except SettingsError Settings :=
  match settings.fault? with
  | some fault => .error (.invalid fault)
  | none => .ok settings

end Settings

end InstanceFilter
