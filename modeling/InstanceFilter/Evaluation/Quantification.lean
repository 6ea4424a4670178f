/-
Quantified comparisons: an array on the left, a scalar on the right. ANY holds when the comparison
holds for some element, EVERY when it holds for all, and the other two negate them. The right-hand
side and the comparison are checked before the elements, so an operand of the wrong type is an error
on an empty array too. A missing left-hand side satisfies none of the four.
-/
import InstanceFilter.Evaluation.Comparison
import InstanceFilter.Value.Access

namespace InstanceFilter

/-- Whether a quantifier ends at the first element that satisfies the comparison, or at the first
that does not. -/
def Quantifier.endsAt : Quantifier → Bool
  | .any | .notAny => true
  | .every | .notEvery => false

/-- Whether the verdict is negated in the end. -/
def Quantifier.isNegated : Quantifier → Bool
  | .notAny | .notEvery => true
  | .any | .every => false

/-- Whether the verdict `sought` comes up among the elements; an error before it ends the search. -/
def seek {settings : Settings} (sought : Bool) (judge : Value → Judging settings Bool) :
    List Value → Judging settings Bool
  | [] => return false
  | element :: rest => do
    if (← judge element) = sought then return true else seek sought judge rest

/-- The verdict of a quantifier over elements. -/
def Quantifier.over {settings : Settings} (q : Quantifier)
    (judge : Value → Judging settings Bool) (elements : List Value) : Judging settings Bool := do
  let found ← seek q.endsAt judge elements
  let holds := found == q.endsAt
  return holds != q.isNegated

/-- The quantified comparison of two resolved operands. -/
def quantify (settings : Settings) (q : Quantifier) (c : Operator) (lhs rhs : Value) :
    Judging settings Bool :=
  if lhs.isNull then return false
  else match lhs with
    | .array items =>
      if rhs.isArray then throw (.typeMismatch (.quantify q) (.quantifiedNeedsScalar rhs.type))
      else do
        let rhs ← reconcile c items.kind.scalar rhs
        checkOperator c items.kind.scalar
        q.over (fun element => compareValues settings c element rhs) items.elements
    | _ => throw (.typeMismatch (.quantify q) (.quantifierNeedsArray lhs.type))

end InstanceFilter
