/-
The machine that runs a program: a stack of truth values, a cursor over the operands and the
patterns compiled so far. Operations take their operands in order and their truth values from the
stack; a finished run leaves exactly one truth value, the verdict.
-/
import InstanceFilter.Evaluation.Quantification
import InstanceFilter.Evaluation.Resolution
import InstanceFilter.Program.Basic

namespace InstanceFilter

/-! ## Instructions -/

/-- One step of the machine; a quantifier and its comparison are one step. -/
inductive Instruction where
  | conjunction
  | disjunction
  | negation
  | nullTest
  | comparison (c : Comparator)
  | quantified (q : Quantifier) (c : Comparator)
  /-- A quantifier without a comparison after it, where every run ends. -/
  | incomplete (q : Quantifier)
  deriving Repr, DecidableEq

namespace Instruction

def ofOperators : List Operator → List Instruction
  | [] => []
  | .and :: rest => .conjunction :: ofOperators rest
  | .or :: rest => .disjunction :: ofOperators rest
  | .not :: rest => .negation :: ofOperators rest
  | .isNull :: rest => .nullTest :: ofOperators rest
  | .compare c :: rest => .comparison c :: ofOperators rest
  | .quantify q :: .compare c :: rest => .quantified q c :: ofOperators rest
  | .quantify q :: _ => [.incomplete q]

/-- The operator that an instruction answers for. -/
def operator : Instruction → Operator
  | .conjunction => .and
  | .disjunction => .or
  | .negation => .not
  | .nullTest => .isNull
  | .comparison c => .compare c
  | .quantified q _ | .incomplete q => .quantify q

/-- How many operands an instruction takes. -/
def arity : Instruction → Nat
  | .conjunction | .disjunction | .negation | .incomplete _ => 0
  | .nullTest => 1
  | .comparison _ | .quantified .. => 2

end Instruction

/-! ## Running -/

structure Machine (settings : Settings) where
  stack : List Bool
  cursor : Nat
  patterns : settings.Patterns

namespace Machine

variable {settings : Settings}

def start : Machine settings := ⟨[], 0, .empty⟩

def push (m : Machine settings) (result : Bool) : Machine settings :=
  { m with stack := result :: m.stack }

/-- Pushes the result of a judgement and keeps the patterns compiled for it. -/
def judge (m : Machine settings) (judgement : Judging settings Bool) :
    Except EvalError (Machine settings) := do
  let (result, patterns) ← judgement.run m.patterns
  return { m with patterns }.push result

def pop (m : Machine settings) (op : Operator) : Except EvalError (Bool × Machine settings) :=
  match m.stack with
  | [] => .error (.malformed (.stackUnderflow op))
  | top :: stack => .ok (top, { m with stack })

/-- The two truth values on top, the one pushed first on the left. -/
def popTwo (m : Machine settings) (op : Operator) :
    Except EvalError (Bool × Bool × Machine settings) := do
  let (rhs, m) ← m.pop op
  let (lhs, m) ← m.pop op
  return (lhs, rhs, m)

/-- The verdict of a finished run. -/
def verdict (m : Machine settings) : Except EvalError Bool :=
  match m.stack with
  | [result] => .ok result
  | stack => .error (.malformed (.resultsLeft stack.length))

variable {σ : Type} [PropertySource σ]

/-- The next operand as it resolves against the source. -/
def nextOperand (operands : List Value) (source : σ) (m : Machine settings) (op : Operator) :
    Except EvalError (Value × Machine settings) :=
  match operands[m.cursor]? with
  | some operand => .ok (operand.resolve source, { m with cursor := m.cursor + 1 })
  | none => .error (.malformed (.missingOperand op m.cursor operands.length))

/-- The next two operands, the first on the left. -/
def nextTwo (operands : List Value) (source : σ) (m : Machine settings) (op : Operator) :
    Except EvalError (Value × Value × Machine settings) := do
  let (lhs, m) ← m.nextOperand operands source op
  let (rhs, m) ← m.nextOperand operands source op
  return (lhs, rhs, m)

def step (settings : Settings) (operands : List Value) (source : σ) (m : Machine settings)
    (instruction : Instruction) : Except EvalError (Machine settings) := do
  let op := instruction.operator
  match instruction with
  | .conjunction =>
    let (lhs, rhs, m) ← m.popTwo op
    return m.push (lhs && rhs)
  | .disjunction =>
    let (lhs, rhs, m) ← m.popTwo op
    return m.push (lhs || rhs)
  | .negation =>
    let (value, m) ← m.pop op
    return m.push (!value)
  | .nullTest =>
    let (value, m) ← m.nextOperand operands source op
    return m.push value.isNull
  | .comparison _ =>
    let (lhs, rhs, m) ← m.nextTwo operands source op
    m.judge (compareValues settings op lhs rhs)
  | .quantified q c =>
    let (lhs, rhs, m) ← m.nextTwo operands source op
    m.judge (quantify settings q (.compare c) lhs rhs)
  | .incomplete _ => .error (.malformed (.missingComparison op))

end Machine

/-! ## Evaluating -/

variable {σ : Type} [PropertySource σ]

/-- Refuses a program with more operations than the settings allow. -/
def Program.checkLimit (program : Program) (settings : Settings) : Except EvalError Unit :=
  match settings.maxOperations with
  | some limit =>
    if limit.toNat < program.operations.length then
      .error (.limitExceeded limit.toNat program.operations.length)
    else .ok ()
  | none => .ok ()

/-- The verdict of a program on a source. -/
def evaluate (settings : Settings) (program : Program) (source : σ) : Except EvalError Bool := do
  program.checkLimit settings
  let final ← (Instruction.ofOperators program.operations).foldlM
    (Machine.step settings program.operands source) Machine.start
  final.verdict

end InstanceFilter
