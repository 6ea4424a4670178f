/-
What is finer than a microsecond in the date-times of a value, however deep in the links of a
reference they stand. A value that has nothing finer is the same value without it.
-/
import InstanceFilter.Value.Basic
import InstanceFilter.Proofs.DateTime.Precision

namespace InstanceFilter

/-! ## The date-times of a value -/

def ArrayValue.dateTimes : ArrayValue → List DateTime
  | .dateTime items => items
  | .integer _ | .double _ | .boolean _ | .string _ | .reference _ => []

mutual

/-- The date-times that a value is made of, those in the links of a reference among them. -/
def Value.dateTimes : Value → List DateTime
  | .dateTime d => [d]
  | .property ref => ref.dateTimes
  | .array items => items.dateTimes
  | .null | .integer _ | .double _ | .boolean _ | .string _ | .reference _ => []

def PropertyRef.dateTimes : PropertyRef → List DateTime
  | ⟨_, _, chain⟩ => chainDateTimes chain

def chainDateTimes : List Value → List DateTime
  | [] => []
  | link :: rest => link.dateTimes ++ chainDateTimes rest

end

/-! ## Without what is finer than a microsecond -/

def ArrayValue.cut : ArrayValue → ArrayValue
  | .dateTime items => .dateTime (items.map DateTime.cut)
  | items => items

mutual

/-- The value with each of its date-times cut down to whole microseconds. -/
def Value.cut : Value → Value
  | .dateTime d => .dateTime d.cut
  | .property ref => .property ref.cut
  | .array items => .array items.cut
  | v => v

def PropertyRef.cut : PropertyRef → PropertyRef
  | ⟨name, index, chain⟩ => ⟨name, index, cutChain chain⟩

def cutChain : List Value → List Value
  | [] => []
  | link :: rest => link.cut :: cutChain rest

end

/-! ## Values of whole microseconds -/

theorem ArrayValue.cut_of_inMicros {items : ArrayValue} (h : ∀ d ∈ items.dateTimes, d.InMicros) :
    items.cut = items := by
  cases items with
  | dateTime items =>
    have hitems : items.map DateTime.cut = items :=
      (List.map_congr_left fun d hd => DateTime.cut_of_inMicros (h d hd)).trans (List.map_id _)
    rw [cut, hitems]
  | _ => rfl

mutual

theorem Value.cut_of_inMicros {v : Value} (h : ∀ d ∈ v.dateTimes, d.InMicros) : v.cut = v := by
  cases v with
  | dateTime d => rw [Value.cut, DateTime.cut_of_inMicros (h d List.mem_cons_self)]
  | property ref => rw [Value.cut, PropertyRef.cut_of_inMicros h]
  | array items => rw [Value.cut, ArrayValue.cut_of_inMicros h]
  | _ => rfl

theorem PropertyRef.cut_of_inMicros {ref : PropertyRef} (h : ∀ d ∈ ref.dateTimes, d.InMicros) :
    ref.cut = ref := by
  obtain ⟨name, index, chain⟩ := ref
  rw [PropertyRef.cut, cutChain_of_inMicros h]

theorem cutChain_of_inMicros {chain : List Value} (h : ∀ d ∈ chainDateTimes chain, d.InMicros) :
    cutChain chain = chain := by
  cases chain with
  | nil => rfl
  | cons link rest =>
    obtain ⟨hlink, hrest⟩ := List.forall_mem_append.1 h
    rw [cutChain, Value.cut_of_inMicros hlink, cutChain_of_inMicros hrest]

end

end InstanceFilter
