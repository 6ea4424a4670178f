/-
Quantified comparisons, element by element. The quantifier reconciles its right-hand side once and
checks the comparison once, before it looks at an element; a comparison of its own does both for
every element. The two come to the same, since a reconciled value needs no second reconciling, so a
quantified comparison of an array with elements is the plain comparison of each of them, from left
to right up to the first that decides.
-/
import InstanceFilter.Proofs.Evaluation.Judging
import InstanceFilter.Proofs.Fallible
import InstanceFilter.Proofs.Value.Elements
import Mathlib

namespace InstanceFilter

open Judging

variable {settings : Settings}

/-! ## The verdict over elements -/

/-- What a quantifier makes of the verdicts on the elements, in their order: the first error ends
the walk, and so does the first verdict that the quantifier ends at. -/
def Quantifier.walk (q : Quantifier) : List (Except EvalError Bool) → Except EvalError Bool
  | [] => .ok (q.endsAt == q.isNegated)
  | .error e :: _ => .error e
  | .ok verdict :: rest =>
    if verdict = q.endsAt then .ok (q.endsAt != q.isNegated) else q.walk rest

/-- What a quantifier says of elements that a property holds of or not. -/
def Quantifier.holds (q : Quantifier) (p : Value → Bool) (elements : List Value) : Bool :=
  match q with
  | .any => elements.any p
  | .every => elements.all p
  | .notAny => !elements.any p
  | .notEvery => !elements.all p

theorem Quantifier.walk_ok (q : Quantifier) (p : Value → Bool) (elements : List Value) :
    q.walk (elements.map fun v => .ok (p v)) = .ok (q.holds p elements) := by
  induction elements with
  | nil => cases q <;> rfl
  | cons v rest ih =>
    rw [List.map_cons, walk, ih]
    cases q <;> cases hv : p v <;> simp [holds, endsAt, isNegated, hv]

theorem outcome_seek (sought : Bool) {judge : Value → Judging settings Bool}
    (h : ∀ v, (judge v).Steady) (v : Value) (rest : List Value) :
    (seek sought judge (v :: rest)).outcome =
      (judge v).outcome >>= fun verdict =>
        if verdict = sought then .ok true else (seek sought judge rest).outcome := by
  rw [seek, outcome_bind]
  · congr 1
    funext verdict
    split <;> rfl
  · intro verdict
    split
    · exact steady_pure _
    · exact steady_seek sought h rest

/-- A search that keeps patterns from one element to the next is a walk over what each element comes
to on its own. -/
theorem Quantifier.outcome_over (q : Quantifier) {judge : Value → Judging settings Bool}
    (h : ∀ v, (judge v).Steady) (elements : List Value) :
    (q.over judge elements).outcome = q.walk (elements.map fun v => (judge v).outcome) := by
  refine (outcome_bind fun found => steady_pure ((found == q.endsAt) != q.isNegated)).trans ?_
  induction elements with
  | nil => cases q <;> rfl
  | cons v rest ih =>
    rw [outcome_seek _ h, List.map_cons]
    cases (judge v).outcome with
    | error e => rfl
    | ok verdict =>
      rw [walk, ← ih]
      cases q <;> cases verdict <;> rfl

/-! ## Reconciling once and for all -/

/-- The value can be read as one of the kind, if it is not of that kind already. -/
def Value.ReadableAs (v : Value) (kind : Kind) : Prop := ∃ w, v.coerce kind = .ok w

/-- The comparison means something for scalars of the kind. -/
def Comparator.DefinedFor (c : Comparator) (kind : Kind) : Prop :=
  (c.isOrdering = true → kind.isOrdered = true) ∧ (c.isPattern = true → kind = .string)

theorem coerce_of_kind {v : Value} {kind : Kind} (h : v.kind = kind) : v.coerce kind = .ok v :=
  if_pos h

/-- A value that was read as one of a kind is of that kind, and an array if it was one before. -/
theorem of_coerce {v w : Value} {kind : Kind} (h : v.coerce kind = .ok w) :
    w.kind = kind ∧ w.isArray = v.isArray := by
  unfold Value.coerce at h
  split at h
  · next hkind =>
    cases h
    exact ⟨hkind, rfl⟩
  split at h
  · cases h
  split at h
  all_goals try
    obtain ⟨_, -, rfl⟩ := map_eq_ok_iff.1 h
    exact ⟨rfl, rfl⟩
  cases h

theorem canCoerce_of_coerce {v w : Value} {kind : Kind} (h : v.coerce kind = .ok w)
    (hkind : v.kind ≠ kind) : v.canCoerce kind = true := by
  unfold Value.coerce at h
  rw [if_neg hkind] at h
  simpa using (check_eq_ok_iff.1 h).1

/-- A value reconciles exactly when it can be read as one of the kind, and to what it reads as. -/
theorem reconcile_eq_ok_iff {op : Operator} {target : ValueType} {rhs w : Value} :
    reconcile op target rhs = .ok w ↔ rhs.coerce target.kind = .ok w := by
  unfold reconcile
  by_cases hkind : rhs.kind = target.kind
  · rw [if_pos hkind, coerce_of_kind hkind]
    exact ⟨fun h => congrArg _ (Except.ok.inj h), fun h => congrArg _ (Except.ok.inj h)⟩
  · rw [if_neg hkind]
    constructor
    · intro h
      obtain ⟨-, h⟩ := check_eq_ok_iff.1 h
      cases hc : rhs.coerce target.kind with
      | error e => rw [hc] at h; cases h
      | ok w' => rw [hc] at h; cases h; rfl
    · intro h
      refine check_eq_ok_iff.2 ⟨?_, by rw [h]; rfl⟩
      rw [canCoerce_of_coerce h hkind]
      decide

theorem checkOperator_eq_ok_iff {c : Comparator} {kind : Kind} :
    checkOperator (.compare c) kind.scalar = .ok () ↔ c.DefinedFor kind := by
  rw [checkOperator, check_eq_ok_iff, check_eq_ok_iff]
  simp [Comparator.DefinedFor, Operator.isOrdering, Operator.isPattern, Kind.scalar]

/-! ## Elements -/

/-- Aligning a scalar with a right-hand side is reconciling that, checking the operator, and
aligning the scalar with what came out. -/
theorem align_eq {op : Operator} {v rhs : Value} (hv : v.isArray = false)
    (hrhs : rhs.isArray = false) :
    align op v rhs = reconcile op v.kind.scalar rhs >>= fun rhs' =>
      checkOperator op v.kind.scalar >>= fun _ => align op v rhs' := by
  have htype : v.type = v.kind.scalar := by rw [Value.type, hv, Kind.scalar]
  unfold align
  rw [htype]
  cases hr : reconcile op v.kind.scalar rhs with
  | error e => rfl
  | ok w =>
    obtain ⟨hkind, harray⟩ := of_coerce (reconcile_eq_ok_iff.1 hr)
    have hw : reconcile op v.kind.scalar w = .ok w :=
      reconcile_eq_ok_iff.2 (coerce_of_kind hkind)
    simp only [bind, Except.bind, hw, hv, harray, hrhs]
    cases checkOperator op v.kind.scalar <;> rfl

/-- A comparison with something on its left aligns its operands and judges them. -/
theorem outcome_compareValues {c : Comparator} {lhs : Value} (hlhs : lhs.isNull = false)
    (rhs : Value) : (compareValues settings (.compare c) lhs rhs).outcome =
      align (.compare c) lhs rhs >>= fun w => (c.judge settings lhs w).outcome := by
  rw [compareValues, if_neg (by rw [hlhs]; decide), outcome_bind fun w => steady_judge c lhs w]
  congr 1
  cases align (.compare c) lhs rhs <;> rfl

/-- The comparison of an element reconciles the right-hand side as the quantifier does. -/
theorem outcome_compareValues_element {c : Comparator} {items : ArrayValue} {v rhs : Value}
    (hv : v ∈ items.elements) (hrhs : rhs.isArray = false) :
    (compareValues settings (.compare c) v rhs).outcome =
      reconcile (.compare c) items.kind.scalar rhs >>= fun rhs' =>
        checkOperator (.compare c) items.kind.scalar >>= fun _ =>
          (compareValues settings (.compare c) v rhs').outcome := by
  obtain ⟨hkind, harray, hnull⟩ := ArrayValue.of_mem_elements hv
  simp only [outcome_compareValues hnull]
  rw [align_eq harray hrhs, hkind]
  simp only [bind_assoc]

theorem outcome_quantify {q : Quantifier} {c : Comparator} {items : ArrayValue} {rhs : Value}
    (hrhs : rhs.isArray = false) :
    (quantify settings q (.compare c) (.array items) rhs).outcome =
      reconcile (.compare c) items.kind.scalar rhs >>= fun rhs' =>
        checkOperator (.compare c) items.kind.scalar >>= fun _ =>
          q.walk (items.elements.map fun v =>
            (compareValues settings (.compare c) v rhs').outcome) := by
  have hquantify : quantify settings q (.compare c) (.array items) rhs = (do
      let rhs ← reconcile (.compare c) items.kind.scalar rhs
      checkOperator (.compare c) items.kind.scalar
      q.over (fun v => compareValues settings (.compare c) v rhs) items.elements) :=
    (if_neg Bool.false_ne_true).trans (if_neg (by rw [hrhs]; exact Bool.false_ne_true))
  rw [hquantify]
  cases reconcile (.compare c) items.kind.scalar rhs with
  | error e => rfl
  | ok w =>
    cases checkOperator (.compare c) items.kind.scalar with
    | error e => rfl
    | ok u => exact q.outcome_over (fun v => steady_compareValues _ v w) items.elements

/-! ## Quantified comparisons of arrays -/

/-- An array without elements leaves nothing but the checks. -/
theorem outcome_quantify_empty {q : Quantifier} {c : Comparator} {items : ArrayValue} {rhs : Value}
    (hrhs : rhs.isArray = false) (hempty : items.elements = [])
    (hread : rhs.ReadableAs items.kind) (hdefined : c.DefinedFor items.kind) :
    (quantify settings q (.compare c) (.array items) rhs).outcome =
      .ok (q.holds (fun _ => true) []) := by
  obtain ⟨w, hw⟩ := hread
  rw [outcome_quantify hrhs, hempty, reconcile_eq_ok_iff.2 hw, checkOperator_eq_ok_iff.2 hdefined]
  exact q.walk_ok (fun _ => true) []

/-- Whatever an array holds, nothing comes out of a quantified comparison unless its right-hand side
reconciles with the kind of the elements and the comparison is defined for it. -/
theorem checks_of_outcome_quantify {q : Quantifier} {c : Comparator} {items : ArrayValue}
    {rhs : Value} {verdict : Bool} (hrhs : rhs.isArray = false)
    (h : (quantify settings q (.compare c) (.array items) rhs).outcome = .ok verdict) :
    rhs.ReadableAs items.kind ∧ c.DefinedFor items.kind := by
  rw [outcome_quantify hrhs] at h
  obtain ⟨w, hw, h⟩ := bind_eq_ok_iff.1 h
  obtain ⟨u, hchecked, -⟩ := bind_eq_ok_iff.1 h
  exact ⟨⟨w, reconcile_eq_ok_iff.1 hw⟩, checkOperator_eq_ok_iff.1 hchecked⟩

/-- Of an array with elements, a quantifier makes what walking them makes of their own comparisons:
when the checks fail they fail at the first element as well, and when they pass the right-hand side
that they leave compares as the given one. -/
theorem outcome_quantify_elements {q : Quantifier} {c : Comparator} {items : ArrayValue}
    {rhs : Value} (hrhs : rhs.isArray = false) (hne : items.elements ≠ []) :
    (quantify settings q (.compare c) (.array items) rhs).outcome =
      q.walk (items.elements.map fun v => (compareValues settings (.compare c) v rhs).outcome) := by
  rw [outcome_quantify hrhs, List.map_congr_left fun v hv => outcome_compareValues_element hv hrhs]
  obtain ⟨v, rest, hcons⟩ := List.exists_cons_of_ne_nil hne
  rw [hcons]
  cases reconcile (.compare c) items.kind.scalar rhs with
  | error e => rfl
  | ok w =>
    cases checkOperator (.compare c) items.kind.scalar with
    | error e => rfl
    | ok u => rfl

/-- A quantifier agrees with the comparison it quantifies, whatever patterns are kept. Of an array
with elements it makes what walking them makes of their comparisons with the right-hand side as it
is given; when none of those errs, ANY is that some holds, EVERY that all hold, and the other two
negate them. Of an array without elements it makes what the quantifier says of no elements, unless
the right-hand side does not reconcile with the kind of the array or the comparison is not defined
for it. -/
theorem quantify_array (q : Quantifier) (c : Comparator) (items : ArrayValue) {rhs : Value}
    (hrhs : rhs.isArray = false) (patterns : settings.Patterns) :
    let result := (quantify settings q (.compare c) (.array items) rhs).run' patterns
    let verdict := fun v => (compareValues settings (.compare c) v rhs).outcome
    (items.elements ≠ [] →
      result = q.walk (items.elements.map verdict) ∧
      ∀ p : Value → Bool, (∀ v ∈ items.elements, verdict v = .ok (p v)) →
        result = .ok (q.holds p items.elements)) ∧
    (items.elements = [] →
      ((∃ e, result = .error e) ↔ ¬(rhs.ReadableAs items.kind ∧ c.DefinedFor items.kind)) ∧
      ∀ holds, result = .ok holds → (holds = true ↔ q = .every ∨ q = .notAny)) := by
  intro result verdict
  have hresult : result = (quantify settings q (.compare c) (.array items) rhs).outcome :=
    steady_quantify q (.compare c) (.array items) rhs patterns
  refine ⟨fun hne => ?_, fun hempty => ⟨⟨?_, fun hchecks => ?_⟩, fun holds h => ?_⟩⟩
  · have hwalk : result = q.walk (items.elements.map verdict) :=
      hresult.trans (outcome_quantify_elements hrhs hne)
    refine ⟨hwalk, fun p hp => ?_⟩
    rw [hwalk, List.map_congr_left hp]
    exact q.walk_ok p items.elements
  · rintro ⟨e, he⟩ ⟨hread, hdefined⟩
    rw [hresult, outcome_quantify_empty hrhs hempty hread hdefined] at he
    cases he
  · cases h : result with
    | error e => exact ⟨e, rfl⟩
    | ok holds => exact absurd (checks_of_outcome_quantify hrhs (hresult.symm.trans h)) hchecks
  · obtain ⟨hread, hdefined⟩ := checks_of_outcome_quantify hrhs (hresult.symm.trans h)
    rw [hresult, outcome_quantify_empty hrhs hempty hread hdefined] at h
    cases h
    cases q <;> decide

/-- EVERY NE of two date-times and the text of one of them: the text is read as a date-time, and the
walk ends at the first element. -/
theorem quantify_array_date_times :
    (Value.string "00000001000000.000000:000").isArray = false ∧
    (quantify .default .every (.compare .ne)
        (.array (.dateTime [.interval 86400000000, .interval 0]))
        (.string "00000001000000.000000:000")).run' .empty = .ok false := by
  have hrhs : (Value.string "00000001000000.000000:000").isArray = false := rfl
  have hwalk := ((quantify_array .every .ne (.dateTime [.interval 86400000000, .interval 0]) hrhs
    (.empty : Settings.default.Patterns)).1 (by decide)).1
  refine ⟨hrhs, hwalk.trans ?_⟩
  cbv

end InstanceFilter
