/-
Sameness of paths. Part by part it is hosts, namespaces and class names that agree in any case, and
key bindings that pair up; on the whole two paths are the same when they become one path by writing
their names without capitals, so sameness is an equivalence.
-/
import InstanceFilter.Proofs.ObjectPath.Nesting

namespace InstanceFilter

/-! ## Names without capitals -/

namespace Text

def lowered (name : String) : String := String.ofList (fold name)

theorem sameName_iff_lowered {a b : String} : sameName a b = true ↔ lowered a = lowered b := by
  rw [sameName_iff, lowered, lowered, String.ofList_inj]

theorem sameName?_iff_lowered {a b : Option String} :
    sameName? a b = true ↔ a.map lowered = b.map lowered := by
  cases a <;> cases b <;> simp [sameName?, sameName_iff_lowered]

end Text

mutual

def KeyValue.lowered : KeyValue → KeyValue
  | .text s => .text s
  | .boolean b => .boolean b
  | .integer n => .integer n
  | .reference path => .reference path.lowered

/-- The path with all its names without capitals, those in its references included. -/
def ObjectPath.lowered : ObjectPath → ObjectPath
  | ⟨host, space, className, keys⟩ =>
    ⟨host.map Text.lowered, space.map Text.lowered, Text.lowered className, loweredBindings keys⟩

def loweredBindings : List KeyBinding → List KeyBinding
  | [] => []
  | ⟨name, value⟩ :: rest => ⟨Text.lowered name, value.lowered⟩ :: loweredBindings rest

end

mutual

theorem KeyValue.same_iff_lowered {v w : KeyValue} :
    v.same w = true ↔ v.lowered = w.lowered := by
  cases v with
  | reference p => cases w with
    | reference q =>
      rw [KeyValue.same, ObjectPath.same_iff_lowered, KeyValue.lowered, KeyValue.lowered,
        KeyValue.reference.injEq]
    | _ => simp [KeyValue.same, KeyValue.lowered]
  | _ => cases w <;> simp [KeyValue.same, KeyValue.lowered]

theorem ObjectPath.same_iff_lowered {p q : ObjectPath} :
    p.same q = true ↔ p.lowered = q.lowered := by
  obtain ⟨host, space, className, keys⟩ := p
  obtain ⟨host', space', className', keys'⟩ := q
  simp only [ObjectPath.same, ObjectPath.lowered, Bool.and_eq_true, Text.sameName?_iff_lowered,
    Text.sameName_iff_lowered, sameBindings_iff_lowered, ObjectPath.mk.injEq, and_assoc]

theorem sameBindings_iff_lowered {keys keys' : List KeyBinding} :
    sameBindings keys keys' = true ↔ loweredBindings keys = loweredBindings keys' := by
  match keys, keys' with
  | [], [] => simp [sameBindings]
  | [], ⟨_, _⟩ :: _ => simp [sameBindings, loweredBindings]
  | ⟨_, _⟩ :: _, [] => simp [sameBindings, loweredBindings]
  | ⟨name, value⟩ :: rest, ⟨name', value'⟩ :: rest' =>
    simp only [sameBindings, loweredBindings, Bool.and_eq_true, Text.sameName_iff_lowered,
      KeyValue.same_iff_lowered, sameBindings_iff_lowered, List.cons.injEq, KeyBinding.mk.injEq]

end

namespace ObjectPath

/-! ## Sameness is an equivalence -/

theorem same_self (p : ObjectPath) : p.same p = true := same_iff_lowered.2 rfl

theorem same_symm {p q : ObjectPath} (h : p.same q = true) : q.same p = true :=
  same_iff_lowered.2 (same_iff_lowered.1 h).symm

theorem same_trans {p q r : ObjectPath} (hpq : p.same q = true) (hqr : q.same r = true) :
    p.same r = true :=
  same_iff_lowered.2 ((same_iff_lowered.1 hpq).trans (same_iff_lowered.1 hqr))

/-! ## Names -/

theorem length_of_sameName {a b : String} (h : Text.sameName a b = true) :
    a.toList.length = b.toList.length := by
  have hlen := congrArg List.length (Text.sameName_iff.1 h)
  simpa [Text.fold] using hlen

theorem sameName?_self (a : Option String) : Text.sameName? a a = true := by
  cases a <;> simp [Text.sameName?]

theorem eq_none_of_sameName? {a : Option String} (h : Text.sameName? a none = true) : a = none := by
  cases a with
  | none => rfl
  | some a => cases h

theorem exists_of_sameName?_some {a : Option String} {b : String}
    (h : Text.sameName? a (some b) = true) : ∃ c, a = some c ∧ Text.sameName c b = true := by
  cases a with
  | none => cases h
  | some c => exact ⟨c, rfl, h⟩

/-! ## Parts -/

theorem same_parts {p q : ObjectPath} (h : q.same p = true) :
    Text.sameName? q.host p.host = true ∧ Text.sameName? q.space p.space = true ∧
      sameBindings q.keys p.keys = true := by
  obtain ⟨host, space, className, keys⟩ := p
  obtain ⟨host', space', className', keys'⟩ := q
  simp only [same, Bool.and_eq_true] at h
  exact ⟨h.1.1.1, h.1.1.2, h.2⟩

theorem sameBindings_cons (a b : KeyBinding) (as bs : List KeyBinding) :
    sameBindings (a :: as) (b :: bs) =
      (Text.sameName a.name b.name && a.value.same b.value && sameBindings as bs) := by
  cases a
  cases b
  rw [sameBindings]

theorem same_of_mem_keys {f : KeyBinding → KeyBinding} {keys : List KeyBinding}
    (h : sameBindings (keys.map f) keys = true) {b : KeyBinding} (hb : b ∈ keys) :
    (f b).value.same b.value = true := by
  induction keys with
  | nil => cases hb
  | cons k keys ih =>
    simp only [List.map_cons, sameBindings_cons, Bool.and_eq_true] at h
    rcases List.mem_cons.1 hb with rfl | hb
    · exact h.1.2
    · exact ih h.2 hb

theorem length_of_sameBindings {as bs : List KeyBinding} (h : sameBindings as bs = true) :
    as.length = bs.length := by
  induction as generalizing bs with
  | nil =>
    cases bs with
    | nil => rfl
    | cons b bs => simp [sameBindings] at h
  | cons a as ih =>
    cases bs with
    | nil => simp [sameBindings] at h
    | cons b bs =>
      simp only [sameBindings_cons, Bool.and_eq_true] at h
      rw [List.length_cons, List.length_cons, ih h.2]

theorem keys_ne_nil_iff_of_same {p q : ObjectPath} (h : q.same p = true) :
    q.keys ≠ [] ↔ p.keys ≠ [] := by
  have hlength := length_of_sameBindings (same_parts h).2.2
  rw [← List.length_pos_iff, ← List.length_pos_iff, hlength]

/-- Paths that differ in nothing but their keys are the same if their keys pair up. -/
theorem same_with_keys_iff {p : ObjectPath} {keys : List KeyBinding} :
    same { p with keys := keys } p = true ↔ sameBindings keys p.keys = true := by
  obtain ⟨host, space, className, keys'⟩ := p
  rw [same, sameName?_self, sameName?_self, Text.sameName_self]
  simp

end ObjectPath

end InstanceFilter
