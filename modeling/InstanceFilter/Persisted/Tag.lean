/-
The names under which variants are persisted. Each name stands for one variant only, so a name reads
back as the variant that was written.
-/
import InstanceFilter.Filter

namespace InstanceFilter

/-- The first of some variants with a tag. -/
def ofTag? {α : Type} (all : List α) (tag : α → String) (name : String) : Option α :=
  all.find? fun a => tag a == name

def Comparator.tag : Comparator → String
  | .eq => "Eq"
  | .ne => "Ne"
  | .lt => "Lt"
  | .le => "Le"
  | .gt => "Gt"
  | .ge => "Ge"
  | .like => "Like"
  | .notLike => "NotLike"

def Quantifier.tag : Quantifier → String
  | .any => "Any"
  | .notAny => "NotAny"
  | .every => "Every"
  | .notEvery => "NotEvery"

def Operator.tag : Operator → String
  | .and => "And"
  | .or => "Or"
  | .not => "Not"
  | .compare c => c.tag
  | .quantify q => q.tag
  | .isNull => "IsNull"

def Operator.all : List Operator :=
  [.and, .or, .not, .compare .eq, .compare .ne, .compare .lt, .compare .le, .compare .gt,
    .compare .ge, .compare .like, .compare .notLike, .quantify .any, .quantify .notAny,
    .quantify .every, .quantify .notEvery, .isNull]

def Operator.ofTag? (name : String) : Option Operator := InstanceFilter.ofTag? all tag name

def FilterFault.tag : FilterFault → String
  | .typeMismatch => "TypeMismatch"
  | .invalidPattern => "InvalidPattern"
  | .malformed => "Malformed"
  | .unsupported => "Unsupported"

def FilterFault.all : List FilterFault := [.typeMismatch, .invalidPattern, .malformed, .unsupported]

def FailureOrigin.tag : FailureOrigin → String
  | .config => "Config"
  | .dateTime => "DateTime"
  | .evaluator => "Evaluator"
  | .objectPath => "ObjectPath"
  | .schema => "Schema"

def FailureOrigin.all : List FailureOrigin := [.config, .dateTime, .evaluator, .objectPath, .schema]

end InstanceFilter
