/-
What ends an evaluation without a verdict: an ill-typed comparison, a malformed program, a pattern
that cannot be compiled, or too many operations. The data alone is never the cause.
-/
import InstanceFilter.Operator
import InstanceFilter.Value.Error

namespace InstanceFilter

/-- Why an operator cannot judge its operands. -/
inductive Mismatch where
  | incomparable (lhs rhs : ValueType)
  | unreadable (cause : ValueError)
  | unordered (found : ValueType)
  | notMatchable (found : ValueType)
  | mixedForms
  /-- A pattern comparison met something other than two texts. -/
  | needsTexts
  | quantifierNeedsArray (found : ValueType)
  | quantifiedNeedsScalar (found : ValueType)
  deriving Repr, DecidableEq

/-- What is wrong with the shape of a program. -/
inductive Malformation where
  | stackUnderflow (op : Operator)
  | missingComparison (op : Operator)
  | missingOperand (op : Operator) (position count : Nat)
  | notComparison (op : Operator)
  | resultsLeft (count : Nat)
  deriving Repr, DecidableEq

inductive EvalError where
  | typeMismatch (op : Operator) (cause : Mismatch)
  | malformed (cause : Malformation)
  /-- A pattern that cannot be compiled. What the pattern library has to say of it is that
  library's own text and is left out, here and in the message. -/
  | invalidPattern (pattern : String)
  | limitExceeded (limit found : Nat)
  deriving Repr, DecidableEq

/-! ## Messages -/

def Mismatch.message : Mismatch → String
  | .incomparable lhs rhs => "cannot compare " ++ lhs.name ++ " with " ++ rhs.name
  | .unreadable cause => cause.message
  | .unordered found => "ordering is undefined for " ++ found.name
  | .notMatchable found => "pattern matching is undefined for " ++ found.name
  | .mixedForms => "timestamp and interval are not comparable"
  | .needsTexts => "LIKE needs string operands"
  | .quantifierNeedsArray found => "quantifier needs an array, found " ++ found.name
  | .quantifiedNeedsScalar found => "quantified comparison needs a scalar, found " ++ found.name

def Malformation.message : Malformation → String
  | .stackUnderflow op => "stack underflow at " ++ op.label
  | .missingComparison op => op.label ++ " must be followed by a comparison"
  | .missingOperand op position count =>
    op.label ++ " needs operand " ++ toString position ++ " but the program has " ++ toString count
  | .notComparison op => op.label ++ " is not a comparison operator"
  | .resultsLeft count => "program left " ++ toString count ++ " results on the stack"

/-! ## Classes -/

inductive ErrorClass where
  | typeMismatch | invariantViolation | unsupported
  deriving Repr, DecidableEq

def ErrorClass.label : ErrorClass → String
  | .typeMismatch => "type_mismatch"
  | .invariantViolation => "invariant_violation"
  | .unsupported => "unsupported"

namespace EvalError

/-- The message of an error. That of an invalid pattern goes on with a colon and the text of the
pattern library. -/
def message : EvalError → String
  | .typeMismatch op cause => "type mismatch in " ++ op.label ++ ": " ++ cause.message
  | .malformed cause => "malformed program: " ++ cause.message
  | .invalidPattern pattern => "invalid LIKE pattern '" ++ pattern ++ "'"
  | .limitExceeded limit found =>
    "program has " ++ toString found ++ " operations, limit is " ++ toString limit

/-- An invalid pattern is a fault of type: the filter as written can never be judged. -/
def errorClass : EvalError → ErrorClass
  | .typeMismatch .. | .invalidPattern _ => .typeMismatch
  | .malformed _ => .invariantViolation
  | .limitExceeded .. => .unsupported

end EvalError

end InstanceFilter
