/-
Operators of filter programs: connectives of truth values, comparisons of two operands, quantifiers
that carry a comparison over an array, and the test for a missing value.
-/

namespace InstanceFilter

inductive Comparator where
  | eq | ne | lt | le | gt | ge | like | notLike
  deriving Repr, DecidableEq

inductive Quantifier where
  | any | notAny | every | notEvery
  deriving Repr, DecidableEq

inductive Operator where
  | and
  | or
  | not
  | compare (c : Comparator)
  | quantify (q : Quantifier)
  | isNull
  deriving Repr, DecidableEq

def Comparator.label : Comparator → String
  | .eq => "EQ"
  | .ne => "NE"
  | .lt => "LT"
  | .le => "LE"
  | .gt => "GT"
  | .ge => "GE"
  | .like => "LIKE"
  | .notLike => "NOT_LIKE"

/-- The comparisons that need an order. -/
def Comparator.isOrdering : Comparator → Bool
  | .lt | .le | .gt | .ge => true
  | _ => false

/-- The comparisons of a text with a pattern. -/
def Comparator.isPattern : Comparator → Bool
  | .like | .notLike => true
  | _ => false

def Quantifier.label : Quantifier → String
  | .any => "ANY"
  | .notAny => "NOT_ANY"
  | .every => "EVERY"
  | .notEvery => "NOT_EVERY"

namespace Operator

def label : Operator → String
  | .and => "AND"
  | .or => "OR"
  | .not => "NOT"
  | .compare c => c.label
  | .quantify q => q.label
  | .isNull => "IS_NULL"

def isComparison : Operator → Bool
  | .compare _ => true
  | _ => false

def isOrdering : Operator → Bool
  | .compare c => c.isOrdering
  | _ => false

def isPattern : Operator → Bool
  | .compare c => c.isPattern
  | _ => false

def isQuantifier : Operator → Bool
  | .quantify _ => true
  | _ => false

end Operator

end InstanceFilter
