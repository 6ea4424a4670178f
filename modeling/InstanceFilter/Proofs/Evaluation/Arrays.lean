/-
Arrays compared for equality. EQ of two arrays of one kind always comes to a verdict: whether they
are of one size and EQ of the elements at each index holds. An element that errs, a timestamp beside
an interval, makes the arrays different and no error. So between arrays of one kind EQ is symmetric
and transitive, and it holds of an array and itself unless some double of it is not a number.
-/
import InstanceFilter.Proofs.Evaluation.Coercion
import InstanceFilter.Proofs.Evaluation.Ordering
import InstanceFilter.Proofs.Value.Sameness

namespace InstanceFilter

open Judging

/-! ## Elements at one index -/

/-- Arrays pair up when they are of one size and their elements at each index do. -/
theorem ArrayValue.forall₂_elements_iff {R : Value → Value → Prop} {a b : ArrayValue} :
    List.Forall₂ R a.elements b.elements ↔
      a.size = b.size ∧ ∀ i v w, a.get? i = some v → b.get? i = some w → R v w := by
  rw [List.forall₂_iff_get]
  refine and_congr (by simp) ?_
  simp only [get?, List.getElem?_eq_some_iff, List.get_eq_getElem]
  constructor
  · rintro h i v w ⟨hi, rfl⟩ ⟨hi', rfl⟩
    exact h i hi hi'
  · intro h i hi hi'
    exact h i _ _ ⟨hi, rfl⟩ ⟨hi', rfl⟩

/-! ## EQ of values of one kind -/

section Equality

variable {settings : Settings} {v w : Value}

theorem Value.formsAgree_of_same (h : v.same w = true) : v.formsAgree w = true := by
  refine formsAgree_iff.2 ?_
  rintro d e rfl rfl
  exact (DateTime.same_iff.1 h).1

/-- EQ of values of one type errs on date-times of different forms only, and otherwise tells whether
the values are the same. -/
theorem outcome_eq_iff (hnull : v.isNull = false) (htype : w.type = v.type) {holds : Bool} :
    (compareValues settings (.compare .eq) v w).outcome = .ok holds ↔
      v.formsAgree w = true ∧ v.same w = holds := by
  obtain ⟨hkind, harray⟩ := ValueType.mk.inj htype
  rw [outcome_compareValues hnull, bind_eq_ok_iff]
  simp only [align_eq_ok_iff, coerce_of_kind hkind, Except.ok.injEq]
  constructor
  · rintro ⟨_, ⟨rfl, -, -, hforms⟩, hjudge⟩
    exact ⟨hforms, Except.ok.inj hjudge⟩
  · rintro ⟨hforms, rfl⟩
    exact ⟨w, ⟨rfl, harray.symm, rfl, hforms⟩, rfl⟩

theorem outcome_eq_holds_iff (hnull : v.isNull = false) (htype : w.type = v.type) :
    (compareValues settings (.compare .eq) v w).outcome = .ok true ↔ v.same w = true := by
  rw [outcome_eq_iff hnull htype]
  exact and_iff_right_of_imp Value.formsAgree_of_same

theorem outcome_eq_arrays {a b : ArrayValue} (hkind : a.kind = b.kind) :
    (compareValues settings (.compare .eq) (.array a) (.array b)).outcome = .ok (a.same b) := by
  have htype : (Value.array b).type = (Value.array a).type := congrArg Kind.array hkind.symm
  exact (outcome_eq_iff rfl htype).2 ⟨rfl, rfl⟩

/-- Arrays of one kind are the same when EQ holds of their elements at each index. -/
theorem same_iff_outcome_eq {a b : ArrayValue} (hkind : a.kind = b.kind) :
    a.same b = true ↔ a.size = b.size ∧ ∀ i v w, a.get? i = some v → b.get? i = some w →
      (compareValues settings (.compare .eq) v w).outcome = .ok true := by
  rw [ArrayValue.same_iff, and_iff_right hkind, ArrayValue.forall₂_elements_iff]
  refine and_congr_right fun _ => forall₃_congr fun i v w => forall₂_congr fun hv hw => ?_
  obtain ⟨hv, hscalar, hnull⟩ := ArrayValue.of_mem_elements (List.mem_of_getElem? hv)
  obtain ⟨hw, hscalar', -⟩ := ArrayValue.of_mem_elements (List.mem_of_getElem? hw)
  have htype : w.type = v.type := by rw [Value.type, Value.type, hv, hw, hkind, hscalar, hscalar']
  exact (outcome_eq_holds_iff hnull htype).symm

end Equality

/-! ## Arrays of one kind -/

variable {settings : Settings}

/-- EQ of two arrays of one kind is decided element by element, and NE is its negation: it holds when
the arrays are of one size and EQ holds of the elements at each index. The same goes for date-times
or references and the texts of such, with each text read. Between arrays of one kind EQ is symmetric
and transitive, and it is reflexive on arrays whose doubles are all numbers. -/
theorem compareValues_arrays (patterns : settings.Patterns) :
    let verdict := fun (c : Comparator) (v w : Value) =>
      (compareValues settings (.compare c) v w).run' patterns
    let elementwise := fun (a : ArrayValue) (rhs : Value) (b : ArrayValue) => ∃ equal : Bool,
      verdict .eq (.array a) rhs = .ok equal ∧ verdict .ne (.array a) rhs = .ok (!equal) ∧
      (equal = true ↔ a.size = b.size ∧ ∀ i v w, a.get? i = some v → b.get? i = some w →
        verdict .eq v w = .ok true)
    (∀ a b : ArrayValue, a.kind = b.kind → elementwise a (.array b) b) ∧
    (∀ (a : ArrayValue) (texts : List String), a.kind = .dateTime ∨ a.kind = .reference →
      (∀ text ∈ texts, a.kind.Reads text) →
      ∃ b : ArrayValue, (Value.array (.string texts)).ReadsAs (.array b) ∧ a.kind = b.kind ∧
        elementwise a (.array (.string texts)) b) ∧
    (∀ a b : ArrayValue, a.kind = b.kind →
      verdict .eq (.array a) (.array b) = verdict .eq (.array b) (.array a)) ∧
    (∀ a b c : ArrayValue, a.kind = b.kind → b.kind = c.kind →
      verdict .eq (.array a) (.array b) = .ok true → verdict .eq (.array b) (.array c) = .ok true →
      verdict .eq (.array a) (.array c) = .ok true) ∧
    ∀ a : ArrayValue, (∀ x, .double x ∈ a.elements → x.isNaN = false) →
      verdict .eq (.array a) (.array a) = .ok true := by
  intro verdict elementwise
  have houtcome (c v w) : verdict c v w = (compareValues settings (.compare c) v w).outcome :=
    steady_compareValues (.compare c) v w patterns
  have heq {a b : ArrayValue} (hkind : a.kind = b.kind) :
      verdict .eq (.array a) (.array b) = .ok (a.same b) :=
    (houtcome _ _ _).trans (outcome_eq_arrays hkind)
  have harrays {a b : ArrayValue} (hkind : a.kind = b.kind) : elementwise a (.array b) b := by
    refine ⟨a.same b, heq hkind, ?_, ?_⟩
    · rw [houtcome, outcome_ne_eq_ok_iff, outcome_eq_arrays hkind]
    · simp only [houtcome]
      exact same_iff_outcome_eq hkind
  refine ⟨fun a b => harrays, fun a texts hkind htexts => ?_, fun a b hkind => ?_,
    fun a b c hab hbc h h' => ?_, fun a hnumbers => ?_⟩
  · obtain ⟨w, hreads, hw⟩ := exists_readsAs (v := .array (.string texts)) rfl hkind htexts
    obtain ⟨b, rfl⟩ : ∃ b, w = .array b := by cases hreads <;> exact ⟨_, rfl⟩
    have hcoerce := coerce_of_readsAs hreads
    rw [hw] at hcoerce
    have hverdict (c) : verdict c (.array a) (.array (.string texts)) =
        verdict c (.array a) (.array b) :=
      congrArg (·.run' patterns) (@compareValues_of_coerce _ _ (.array a) _ _ hcoerce)
    refine ⟨b, hreads, hw.symm, ?_⟩
    simp only [elementwise, hverdict]
    exact harrays hw.symm
  · rw [heq hkind, heq hkind.symm]
    exact congrArg Except.ok (Bool.eq_iff_iff.2 ⟨ArrayValue.same_symm, ArrayValue.same_symm⟩)
  · rw [heq hab] at h
    rw [heq hbc] at h'
    rw [heq (hab.trans hbc)]
    exact congrArg Except.ok (ArrayValue.same_trans (Except.ok.inj h) (Except.ok.inj h'))
  · rw [heq rfl]
    exact congrArg Except.ok (ArrayValue.same_self hnumbers)

/-- An instant and an interval against the same two in another time zone, against their texts, and
against the two exchanged: no element errs the whole. -/
theorem compareValues_arrays_zones :
    let here := ArrayValue.dateTime [.timestamp ⟨2024, 1, 1, 0, 0, 0, 0⟩ 0, .interval 0]
    let abroad := ArrayValue.dateTime [.timestamp ⟨2024, 1, 1, 1, 0, 0, 0⟩ 60, .interval 0]
    let exchanged := ArrayValue.dateTime [.interval 0, .timestamp ⟨2024, 1, 1, 0, 0, 0, 0⟩ 0]
    let texts := ["20240101010000.000000+060", "00000000000000.000000:000"]
    let verdict := fun (c : Comparator) (v w : Value) =>
      (compareValues .default (.compare c) v w).run' .empty
    abroad.kind = here.kind ∧ (∀ text ∈ texts, abroad.kind.Reads text) ∧
      verdict .eq (.array abroad) (.array here) = .ok true ∧
      verdict .ne (.array here) (.array (.string texts)) = .ok false ∧
      verdict .eq (.array exchanged) (.array here) = .ok false ∧
      verdict .eq (.array here) (.array here) = .ok true := by
  intro here abroad exchanged texts verdict
  obtain ⟨-, htexts, hsymm, -, hself⟩ :=
    compareValues_arrays (.empty : Settings.default.Patterns)
  have hinstant : DateTime.parse "20240101010000.000000+060" =
      .ok (.timestamp ⟨2024, 1, 1, 1, 0, 0, 0⟩ 60) := by cbv
  have hinterval : DateTime.parse "00000000000000.000000:000" = .ok (.interval 0) := by cbv
  have hread : ∀ text ∈ texts, Kind.dateTime.Reads text :=
    List.forall_mem_cons.2 ⟨⟨_, hinstant⟩, List.forall_mem_singleton.2 ⟨_, hinterval⟩⟩
  have hinstants (x : Float) : .double x ∈ here.elements → x.isNaN = false := by
    simp [here, ArrayValue.elements]
  have hzones : verdict .eq (.array here) (.array abroad) = .ok true := by cbv
  have htext : verdict .eq (.array here) (.array (.string texts)) = .ok true := by
    simp only [verdict, here, texts]
    cbv
  have hexchanged : verdict .eq (.array here) (.array exchanged) = .ok false := by cbv
  refine ⟨rfl, hread, (hsymm abroad here rfl).trans hzones, ?_,
    (hsymm exchanged here rfl).trans hexchanged, hself here hinstants⟩
  obtain ⟨b, -, -, equal, heq, hne, -⟩ := htexts here texts (.inl rfl) hread
  cases heq.symm.trans htext
  exact hne

end InstanceFilter
