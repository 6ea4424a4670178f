/-
Comparing two resolved operands. A missing left-hand side satisfies only NE. Otherwise the
right-hand side is brought to the kind of the left-hand side, both must be arrays or both scalars,
and the operator must be defined for the kind; what fails first is reported.
-/
import InstanceFilter.Evaluation.Judging
import InstanceFilter.Value.Coercion
import InstanceFilter.Value.Order

namespace InstanceFilter

/-- A value brought to a kind; `target` is the type to name when that is not permitted. -/
def reconcile (op : Operator) (target : ValueType) (rhs : Value) : Except EvalError Value :=
  if rhs.kind = target.kind then .ok rhs
  else if !rhs.canCoerce target.kind then
    .error (.typeMismatch op (.incomparable target rhs.type))
  else (rhs.coerce target.kind).mapError fun cause => .typeMismatch op (.unreadable cause)

/-- Orderings need scalars of an ordered kind and patterns need scalar strings. -/
def checkOperator (op : Operator) (type : ValueType) : Except EvalError Unit :=
  if op.isOrdering && (type.isArray || !type.kind.isOrdered) then
    .error (.typeMismatch op (.unordered type))
  else if op.isPattern && (type.isArray || type.kind != .string) then
    .error (.typeMismatch op (.notMatchable type))
  else .ok ()

/-- The verdict of a comparison on operands of one type for which it is defined. -/
def Comparator.judge (settings : Settings) (c : Comparator) (lhs rhs : Value) :
    Judging settings Bool :=
  match c with
  | .eq => pure (lhs.same rhs)
  | .ne => pure (!lhs.same rhs)
  | .lt => pure ((lhs.compare? rhs).any (·.isLT))
  | .le => pure ((lhs.compare? rhs).any (·.isLE))
  | .gt => pure ((lhs.compare? rhs).any (·.isGT))
  | .ge => pure ((lhs.compare? rhs).any (·.isGE))
  | .like => like fun matched => matched
  | .notLike => like fun matched => !matched
where
  like (verdict : Bool → Bool) : Judging settings Bool :=
    match lhs, rhs with
    | .string text, .string pattern => verdict <$> matchLike settings pattern text
    | _, _ => throw (.typeMismatch (.compare c) .needsTexts)

/-- The right-hand side in line with the left-hand side, for an operator that is defined there. -/
def align (op : Operator) (lhs rhs : Value) : Except EvalError Value := do
  let rhs ← reconcile op lhs.type rhs
  if lhs.isArray != rhs.isArray then .error (.typeMismatch op (.incomparable lhs.type rhs.type))
  else do
    checkOperator op lhs.type
    if lhs.formsAgree rhs then .ok rhs else .error (.typeMismatch op .mixedForms)

/-- The comparison of two resolved operands by an operator. -/
def compareValues (settings : Settings) (op : Operator) (lhs rhs : Value) :
    Judging settings Bool :=
  if lhs.isNull then return op == .compare .ne
  else do
    let rhs ← align op lhs rhs
    match op with
    | .compare c => c.judge settings lhs rhs
    | other => throw (.malformed (.notComparison other))

end InstanceFilter
