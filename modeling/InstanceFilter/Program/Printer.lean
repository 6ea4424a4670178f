/-
The listing of a program: its operations and its operands, one to a line with their positions, and
under a property reference the links of its chain.
-/
import InstanceFilter.Program.Basic
import InstanceFilter.Value.Printer

namespace InstanceFilter

/-- A line with a position in brackets. -/
def Program.listed (label : String) (position : Nat) (text : List Char) : List Char :=
  label.toList ++ '[' :: Text.signed position ++ ']' :: ' ' :: text ++ ['\n']

def Program.listOperand (position : Nat) (operand : Value) : List Char :=
  listed "  " position operand.render ++
    match operand with
    | .property ref => (ref.chain.mapIdx fun j link => listed "      chain" j link.render).flatten
    | _ => []

def Program.render (program : Program) : List Char :=
  "operations:\n".toList ++
    (program.operations.mapIdx fun i op => listed "  " i op.label.toList).flatten ++
    "operands:\n".toList ++ (program.operands.mapIdx listOperand).flatten

def Program.toText (program : Program) : String := String.ofList program.render

end InstanceFilter
