/-
Filters: a query with its compiled program and the settings it runs with, and the one kind of
failure in which all errors of the library are reported to a caller.
-/
import InstanceFilter.Evaluation.Machine
import InstanceFilter.Schema.Builder

namespace InstanceFilter

/-! ## Failures -/

inductive FilterFault where
  | typeMismatch | invalidPattern | malformed | unsupported
  deriving Repr, DecidableEq

inductive FailureKind where
  | filter (fault : FilterFault)
  | config
  | path
  | parse
  deriving Repr, DecidableEq

inductive FailureOrigin where
  | config | dateTime | evaluator | objectPath | schema
  deriving Repr, DecidableEq

structure Failure where
  kind : FailureKind
  origin : FailureOrigin
  message : String
  deriving Repr, DecidableEq

namespace Failure

def ofEvaluation (e : EvalError) : Failure :=
  let fault : FilterFault := match e, e.errorClass with
    | .invalidPattern _, _ => .invalidPattern
    | _, .typeMismatch => .typeMismatch
    | _, .invariantViolation => .malformed
    | _, .unsupported => .unsupported
  ⟨.filter fault, .evaluator, e.message⟩

def ofSettings (fault : Settings.Fault) : Failure := ⟨.config, .config, fault.message⟩

def ofSchema (e : SchemaError) : Failure := ⟨.path, .schema, e.message⟩

def ofDateTime (e : DateTime.Error) : Failure := ⟨.parse, .dateTime, e.message⟩

def ofObjectPath (e : ObjectPath.Error) : Failure := ⟨.parse, .objectPath, e.message⟩

end Failure

/-! ## Filters -/

structure Filter where
  query : String
  program : Program
  settings : Settings

namespace Filter

def ofProgram (query : String) (program : Program) : Filter := ⟨query, program, .default⟩

/-- The filter with other settings, which must be valid. -/
def withSettings (filter : Filter) (settings : Settings) : Except Failure Filter :=
  match settings.fault? with
  | some fault => .error (.ofSettings fault)
  | none => .ok { filter with settings }

def evaluate {σ : Type} [PropertySource σ] (filter : Filter) (source : σ) : Except Failure Bool :=
  (InstanceFilter.evaluate filter.settings filter.program source).mapError .ofEvaluation

/-- The properties that a filter reads. -/
def propertyList (filter : Filter) : List String := filter.program.propertyNames

end Filter

end InstanceFilter
