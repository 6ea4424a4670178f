/-
Programs: the compiled form of a filter expression. The operands stand in the order of the text, the
operations in postfix order, and the property names are those the filter reads, each once whatever
its case.
-/
import InstanceFilter.Operator
import InstanceFilter.Value.Order

namespace InstanceFilter

structure Program where
  operands : List Value
  operations : List Operator
  propertyNames : List String
  deriving Inhabited

/-- Links can be added to a property reference only. -/
inductive ChainError where
  | noOperand
  | notProperty (found : ValueType)
  deriving Repr, DecidableEq

def ChainError.message : ChainError → String
  | .noOperand => "chain_last_operand() called on a program without operands"
  | .notProperty found =>
    "chain_last_operand() requires a property operand, found " ++ found.name

/-- Adds a link to a property reference; any other value is refused by its type. -/
def Value.chained (v link : Value) : Except ValueType Value :=
  match v with
  | .property ref => .ok (.property (ref.linked link))
  | other => .error other.type

/-- The message of refusing to add a link to a value. -/
def Value.chainRefusal (found : ValueType) : String :=
  "chain() called on " ++ found.name ++ " value"

namespace Program

def empty : Program := ⟨[], [], []⟩

def addOperand (program : Program) (operand : Value) : Program :=
  { program with operands := program.operands ++ [operand] }

def addOperation (program : Program) (operation : Operator) : Program :=
  { program with operations := program.operations ++ [operation] }

/-- Adds a link to the last operand. -/
def chainLast (program : Program) (link : Value) : Except ChainError Program :=
  match program.operands.getLast? with
  | none => .error .noOperand
  | some last =>
    match last.chained link with
    | .ok linked => .ok { program with operands := program.operands.dropLast ++ [linked] }
    | .error found => .error (.notProperty found)

def knowsProperty (program : Program) (name : String) : Bool :=
  program.propertyNames.any fun known => Text.sameName known name

/-- Adds a property name unless it is known, and tells whether it was added. -/
def addPropertyName (program : Program) (name : String) : Program × Bool :=
  if program.knowsProperty name then (program, false)
  else ({ program with propertyNames := program.propertyNames ++ [name] }, true)

def isEmpty (program : Program) : Bool := program.operations.isEmpty

/-- Equality of two programs, part by part. One with an operand that is not a number equals no
program, itself included. -/
def same (a b : Program) : Bool :=
  sameList Value.same a.operands b.operands && a.operations == b.operations
    && a.propertyNames == b.propertyNames

end Program

end InstanceFilter
