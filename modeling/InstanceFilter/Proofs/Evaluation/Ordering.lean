/-
The order behind the comparisons. NE negates EQ on all operands. On two scalars that have an order
every comparison but LIKE and NOT LIKE says how their places compare, so the laws of an order carry
over to the comparisons: one of LT, EQ and GT holds, LE and GE are what their names say, operands can
be exchanged, and the comparisons chain. A double that is not a number has no place, and all but NE
are false of it.
-/
import InstanceFilter.Proofs.Evaluation.Typing
import InstanceFilter.Proofs.Value.Place

namespace InstanceFilter

open Judging

variable {settings : Settings}

/-! ## Equality and its negation -/

theorem align_ne_eq_ok_iff {lhs rhs w : Value} :
    align (.compare .ne) lhs rhs = .ok w ↔ align (.compare .eq) lhs rhs = .ok w := by
  simp only [align_eq_ok_iff, checkOperator_type_eq_ok_iff]
  rfl

/-- NE comes to the opposite of what EQ comes to. -/
theorem outcome_ne_eq_ok_iff {lhs rhs : Value} {holds : Bool} :
    (compareValues settings (.compare .ne) lhs rhs).outcome = .ok (!holds) ↔
      (compareValues settings (.compare .eq) lhs rhs).outcome = .ok holds := by
  cases hlhs : lhs.isNull with
  | true =>
    -- with nothing on the left the operands are not looked at
    have hne : (compareValues settings (.compare .ne) lhs rhs).outcome = .ok true := by
      rw [compareValues, if_pos hlhs]
      rfl
    have heq : (compareValues settings (.compare .eq) lhs rhs).outcome = .ok false := by
      rw [compareValues, if_pos hlhs]
      rfl
    rw [hne, heq]
    cases holds <;> simp
  | false =>
    rw [outcome_compareValues hlhs, outcome_compareValues hlhs, bind_eq_ok_iff, bind_eq_ok_iff]
    refine exists_congr fun w => and_congr align_ne_eq_ok_iff ?_
    have hne : (Comparator.judge settings .ne lhs w).outcome = .ok (!lhs.same w) := rfl
    have heq : (Comparator.judge settings .eq lhs w).outcome = .ok (lhs.same w) := rfl
    rw [hne, heq]
    cases holds <;> simp

theorem exists_outcome_ne_error_iff {lhs rhs : Value} :
    (∃ e, (compareValues settings (.compare .ne) lhs rhs).outcome = .error e) ↔
      ∃ e, (compareValues settings (.compare .eq) lhs rhs).outcome = .error e := by
  rw [exists_eq_error_iff, exists_eq_error_iff]
  constructor
  · intro h holds heq
    exact h (!holds) (outcome_ne_eq_ok_iff.2 heq)
  · intro h holds hne
    refine h (!holds) (outcome_ne_eq_ok_iff.1 ?_)
    rw [Bool.not_not, hne]

/-! ## Comparisons of places -/

/-- What a comparison says of two values whose places compare in this way; LIKE and NOT LIKE do not
go by places. -/
def Comparator.admits : Comparator → Ordering → Bool
  | .eq, o => o.isEq
  | .ne, o => o.isNe
  | .lt, o => o.isLT
  | .le, o => o.isLE
  | .gt, o => o.isGT
  | .ge, o => o.isGE
  | .like, _ | .notLike, _ => false

theorem wellTyped_of_ordered {c : Comparator} (hc : c.isPattern = false) {a b : Value}
    (hkind : b.kind = a.kind) (ha : a.isArray = false) (hb : b.isArray = false)
    (hordered : a.kind.isOrdered = true) (hforms : a.formsAgree b = true) :
    c.WellTyped a b := by
  refine ⟨.inl hkind, ha.trans hb.symm, fun _ => ⟨ha, isOrdered_iff.1 hordered⟩, fun h => ?_, ?_⟩
  · cases hc.symm.trans h
  · rintro d e rfl (rfl | ⟨text, rfl, -⟩)
    · exact formsAgree_iff.1 hforms d e rfl rfl
    · cases hkind

/-- Two values that have an order compare as their places. -/
theorem outcome_of_comparable {c : Comparator} (hc : c.isPattern = false) {a b : Value}
    (h : a.Comparable b) : (compareValues settings (.compare c) a b).outcome =
      .ok (c.admits (compare a.place b.place)) := by
  have hjudge : (c.judge settings a b).outcome = .ok (c.admits (compare a.place b.place)) := by
    have hcompare := Value.compare?_of_comparable h
    have hsame := Value.same_of_comparable h
    cases c with
    | eq => exact congrArg Except.ok hsame
    | ne =>
      refine congrArg Except.ok ?_
      rw [hsame]
      cases compare a.place b.place <;> rfl
    | like => cases hc
    | notLike => cases hc
    | _ => exact congrArg (fun o => Except.ok (Option.any _ o)) hcompare
  have hwell : c.WellTyped a b := by
    cases h with
    | dateTimes h => exact wellTyped_of_ordered hc rfl rfl rfl rfl (beq_iff_eq.2 h)
    | _ => exact wellTyped_of_ordered hc rfl rfl rfl rfl rfl
  rw [← hjudge]
  cases h with
  | _ => exact outcome_compareValues_of_kind hwell rfl rfl

/-- Of a double that is not a number nothing holds but NE. -/
theorem outcome_of_isNaN {c : Comparator} (hc : c.isPattern = false) {x y : Float}
    (h : x.isNaN = true ∨ y.isNaN = true) :
    (compareValues settings (.compare c) (.double x) (.double y)).outcome = .ok (c == .ne) := by
  obtain ⟨hnone, hne⟩ := compareDouble?_of_isNaN h
  have hwell : c.WellTyped (.double x) (.double y) := wellTyped_of_ordered hc rfl rfl rfl rfl rfl
  rw [outcome_compareValues_of_kind hwell rfl rfl]
  cases c with
  | eq => exact congrArg Except.ok hne
  | ne => exact congrArg (fun same => Except.ok (!same)) hne
  | like => cases hc
  | notLike => cases hc
  | _ => exact congrArg (fun o => Except.ok (Option.any _ o)) hnone

/-! ## The laws of the comparisons -/

theorem admits_trans {c : Comparator} (hc : c = .lt ∨ c = .le ∨ c = .eq) {p q r : List Int}
    (hpq : c.admits (compare p q) = true) (hqr : c.admits (compare q r) = true) :
    c.admits (compare p r) = true := by
  rcases hc with rfl | rfl | rfl
  · have hlt : compare p r = .lt :=
      Std.TransCmp.lt_trans (Ordering.isLT_iff_eq_lt.1 hpq) (Ordering.isLT_iff_eq_lt.1 hqr)
    exact Ordering.isLT_iff_eq_lt.2 hlt
  · exact Std.TransCmp.isLE_trans hpq hqr
  · have heq : compare p r = .eq :=
      Std.TransCmp.eq_trans (Ordering.isEq_iff_eq_eq.1 hpq) (Ordering.isEq_iff_eq_eq.1 hqr)
    exact Ordering.isEq_iff_eq_eq.2 heq

/-- The comparisons are one order. NE comes to the opposite of EQ and errs where it errs. Of two
scalars that have an order exactly one of LT, EQ and GT holds, LE and GE are what their names say,
exchanging the operands exchanges the comparisons, and LT, LE and EQ chain. Of a double that is not a
number nothing holds but NE. -/
theorem compareValues_order (patterns : settings.Patterns) :
    let verdict := fun (c : Comparator) (a b : Value) =>
      (compareValues settings (.compare c) a b).run' patterns
    (∀ a b, (∀ holds, verdict .ne a b = .ok (!holds) ↔ verdict .eq a b = .ok holds) ∧
      ((∃ e, verdict .ne a b = .error e) ↔ ∃ e, verdict .eq a b = .error e)) ∧
    (∀ a b, a.Comparable b → ∃ lt eq gt : Bool, [lt, eq, gt].count true = 1 ∧
      verdict .lt a b = .ok lt ∧ verdict .eq a b = .ok eq ∧ verdict .gt a b = .ok gt ∧
      verdict .le a b = .ok (lt || eq) ∧ verdict .ge a b = .ok (gt || eq) ∧
      verdict .gt b a = verdict .lt a b ∧ verdict .ge b a = verdict .le a b) ∧
    (∀ a b c, a.Comparable b → b.Comparable c → ∀ op, (op = .lt ∨ op = .le ∨ op = .eq) →
      verdict op a b = .ok true → verdict op b c = .ok true → verdict op a c = .ok true) ∧
    ∀ x y : Float, x.isNaN = true ∨ y.isNaN = true → ∀ op, op.isPattern = false →
      verdict op (.double x) (.double y) = .ok (op == .ne) := by
  intro verdict
  have houtcome (c a b) : verdict c a b = (compareValues settings (.compare c) a b).outcome :=
    steady_compareValues (.compare c) a b patterns
  have hplaces {c a b} (hc : c.isPattern = false) (h : a.Comparable b) :
      verdict c a b = .ok (c.admits (compare a.place b.place)) :=
    (houtcome c a b).trans (outcome_of_comparable hc h)
  refine ⟨fun a b => ?_, fun a b h => ?_, fun a b c hab hbc op hop h h' => ?_,
    fun x y h op hop => ?_⟩
  · simp only [houtcome]
    exact ⟨fun holds => outcome_ne_eq_ok_iff, exists_outcome_ne_error_iff⟩
  · have hswap : compare b.place a.place = (compare a.place b.place).swap :=
      Std.OrientedCmp.eq_swap
    -- what is left of each law is a fact about the three ways in which two places compare
    refine ⟨_, _, _, ?_, hplaces rfl h, hplaces rfl h, hplaces rfl h, ?_⟩
    · cases compare a.place b.place <;> decide
    · rw [hplaces rfl h, hplaces rfl h, hplaces rfl h, hplaces rfl h.symm, hplaces rfl h.symm, hswap]
      cases compare a.place b.place <;> decide
  · have hpattern : op.isPattern = false := by rcases hop with rfl | rfl | rfl <;> rfl
    rw [hplaces hpattern hab] at h
    rw [hplaces hpattern hbc] at h'
    rw [hplaces hpattern (hab.trans hbc), admits_trans hop (Except.ok.inj h) (Except.ok.inj h')]
  · rw [houtcome, outcome_of_isNaN hop h]

/-- One instant written with two offsets: it is equal to itself, so it is not before itself. -/
theorem compareValues_order_offsets :
    let noon := Value.dateTime (.timestamp ⟨2024, 1, 1, 12, 0, 0, 0⟩ 0)
    let noonAbroad := Value.dateTime (.timestamp ⟨2024, 1, 1, 14, 30, 0, 0⟩ 150)
    noon.Comparable noonAbroad ∧
      (compareValues .default (.compare .eq) noon noonAbroad).run' .empty = .ok true ∧
      (compareValues .default (.compare .lt) noon noonAbroad).run' .empty = .ok false := by
  intro noon noonAbroad
  have h : noon.Comparable noonAbroad := .dateTimes rfl
  obtain ⟨lt, eq, gt, hone, hlt, heq, -⟩ :=
    (compareValues_order (.empty : Settings.default.Patterns)).2.1 noon noonAbroad h
  have heq' : (compareValues .default (.compare .eq) noon noonAbroad).run' .empty = .ok true := by
    cbv
  cases heq.symm.trans heq'
  refine ⟨h, heq', hlt.trans ?_⟩
  cases lt with
  | false => rfl
  | true => cases gt <;> cases hone

end InstanceFilter
