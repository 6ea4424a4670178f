/-
The trace of an evaluation: what it resolved, what it executed and, if it gave no verdict, why. An
instruction is recorded by the operands it takes, as far as there are any, and by its result.
-/
import InstanceFilter.Evaluation.Machine

namespace InstanceFilter

inductive Event where
  | unresolved (ref : PropertyRef)
  | resolved (position : Nat) (value : Value)
  | executed (op : Operator) (result : Bool) (depth : Nat)
  | aborted (error : EvalError)

/-- The records of one evaluation, under the number of operations of its program. -/
structure Trace where
  operations : Nat
  events : List Event

/-- An entry of the log: the span of an evaluation, or an event in it. -/
inductive Trace.Entry where
  | span (operations : Nat)
  | event (e : Event)

/-- The log of an evaluation: its span, then its events in order. -/
def Trace.entries (t : Trace) : List Trace.Entry := .span t.operations :: t.events.map .event

namespace Event

variable {σ : Type} [PropertySource σ]

/-- The records of resolving one operand. -/
def ofOperand (source : σ) (position : Nat) (operand : Value) : List Event :=
  let unresolved := match operand with
    | .property ref => if (ref.resolve? source).isNone then [.unresolved ref] else []
    | _ => []
  unresolved ++ [.resolved position (operand.resolve source)]

/-- The records of the operands that an instruction takes. -/
def ofOperands (operands : List Value) (source : σ) (position count : Nat) : List Event :=
  ((operands.drop position).take count).mapIdx (fun i => ofOperand source (position + i)) |>.flatten

/-- The records of running instructions from a state of the machine. -/
def ofRun (settings : Settings) (operands : List Value) (source : σ) :
    Machine settings → List Instruction → List Event
  | m, [] =>
    match m.verdict with
    | .ok _ => []
    | .error e => [.aborted e]
  | m, instruction :: rest =>
    ofOperands operands source m.cursor instruction.arity ++
      match m.step settings operands source instruction with
      | .ok next =>
        .executed instruction.operator (next.stack.headD false) next.stack.length ::
          ofRun settings operands source next rest
      | .error e => [.aborted e]

end Event

/-- The trace of evaluating a program on a source. -/
def trace {σ : Type} [PropertySource σ] (settings : Settings) (program : Program) (source : σ) :
    Trace :=
  { operations := program.operations.length
    events := match program.checkLimit settings with
      | .error e => [.aborted e]
      | .ok _ => Event.ofRun settings program.operands source Machine.start
          (Instruction.ofOperators program.operations) }

end InstanceFilter
