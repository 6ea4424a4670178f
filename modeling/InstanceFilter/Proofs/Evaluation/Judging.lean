/-
What the patterns kept from one judgement to the next can do: nothing. Comparisons, quantified or
not, come to the same whatever has been compiled before them, and they fault the operands only,
never the shape of the program that they stand in.

Both are shown combinator by combinator: a property of judgements that holds of the pure ones, of
the errors and of a pattern match, and that a sequence inherits from its parts.
-/
import InstanceFilter.Evaluation.Quantification
import InstanceFilter.Proofs.Fallible

namespace InstanceFilter

namespace Judging

variable {settings : Settings} {α β : Type}

/-- Every error of a judgement satisfies `P`, whatever patterns are kept. -/
def FailsOnly (P : EvalError → Prop) (x : Judging settings α) : Prop :=
  ∀ patterns e, x.run patterns = .error e → P e

theorem run'_map (f : α → β) (x : Judging settings α) (patterns : settings.Patterns) :
    (f <$> x).run' patterns = (x.run' patterns).map f := by
  rw [StateT.run'_eq, StateT.run'_eq, StateT.run_map]
  cases x.run patterns <;> rfl

/-! ## Steady judgements -/

theorem steady_pure (a : α) : (pure a : Judging settings α).Steady := fun _ => rfl

theorem steady_throw (e : EvalError) : (throw e : Judging settings α).Steady := fun _ => rfl

theorem Steady.map {x : Judging settings α} (hx : x.Steady) (f : α → β) : (f <$> x).Steady := by
  rw [map_eq_pure_bind]
  exact hx.bind fun a => steady_pure (f a)

/-- A pattern match asks the cache, and the cache answers as the pattern compiled afresh. -/
theorem run'_matchLike (pattern text : String) (patterns : settings.Patterns) :
    (matchLike settings pattern text).run' patterns =
      match Pattern.like? settings.patternSizeLimit.toNat settings.caseInsensitiveLike pattern text
      with
      | some matched => .ok matched
      | none => .error (.invalidPattern pattern) := by
  rw [← Pattern.Cache.map_like? patterns, StateT.run'_eq]
  unfold matchLike
  simp only [StateT.run]
  cases patterns.like? pattern text <;> rfl

theorem steady_matchLike (pattern text : String) : (matchLike settings pattern text).Steady := by
  intro patterns
  unfold outcome
  rw [run'_matchLike, run'_matchLike]

/-! ## Errors of judgements -/

variable {P : EvalError → Prop}

theorem failsOnly_pure (a : α) : FailsOnly P (pure a : Judging settings α) := by
  intro patterns e h
  cases h

theorem failsOnly_throw {e : EvalError} (he : P e) :
    FailsOnly P (throw e : Judging settings α) := by
  intro patterns e' h
  cases h
  exact he

theorem failsOnly_lift {r : Except EvalError α} (hr : ∀ e, r = .error e → P e) :
    FailsOnly P (liftM r : Judging settings α) := by
  intro patterns e h
  cases r with
  | ok a => cases h
  | error e' =>
    cases h
    exact hr e rfl

theorem FailsOnly.bind {x : Judging settings α} {f : α → Judging settings β}
    (hx : FailsOnly P x) (hf : ∀ a, FailsOnly P (f a)) : FailsOnly P (x >>= f) := by
  intro patterns e h
  rw [StateT.run_bind] at h
  cases hr : x.run patterns with
  | error e' =>
    rw [hr] at h
    cases h
    exact hx patterns e hr
  | ok r =>
    rw [hr] at h
    exact hf r.1 r.2 e h

theorem FailsOnly.map {x : Judging settings α} (hx : FailsOnly P x) (f : α → β) :
    FailsOnly P (f <$> x) := by
  rw [map_eq_pure_bind]
  exact hx.bind fun a => failsOnly_pure (f a)

theorem failsOnly_matchLike (pattern text : String) (h : P (.invalidPattern pattern)) :
    FailsOnly P (matchLike settings pattern text) := by
  intro patterns e he
  unfold matchLike at he
  simp only [StateT.run] at he
  split at he
  · cases he
  · cases he
    exact h

theorem FailsOnly.outcome {x : Judging settings α} (hx : FailsOnly P x) {e : EvalError}
    (h : x.outcome = .error e) : P e := by
  unfold Judging.outcome at h
  rw [StateT.run'_eq] at h
  cases hr : x.run .empty with
  | error e' =>
    rw [hr] at h
    cases h
    exact hx _ _ hr
  | ok r => rw [hr] at h; cases h

end Judging

open Judging

variable {settings : Settings}

/-! ## Comparisons -/

theorem steady_judge (c : Comparator) (lhs rhs : Value) : (c.judge settings lhs rhs).Steady := by
  have like (verdict : Bool → Bool) :
      (Comparator.judge.like settings c lhs rhs verdict).Steady := by
    unfold Comparator.judge.like
    split
    · exact (steady_matchLike _ _).map verdict
    · exact steady_throw _
  cases c <;> first | exact like _ | exact steady_pure _

/-- A comparison comes to the same whatever patterns have been compiled before it. -/
theorem steady_compareValues (op : Operator) (lhs rhs : Value) :
    (compareValues settings op lhs rhs).Steady := by
  unfold compareValues
  split
  · exact steady_pure _
  · refine (steady_lift _).bind fun rhs => ?_
    split
    · exact steady_judge _ _ _
    · exact steady_throw _

/-- An error that the operands are to blame for. -/
def EvalError.FaultsOperands (e : EvalError) : Prop := ∀ cause, e ≠ .malformed cause

/-- A fault of type, reported under the operator that cannot judge its operands. -/
def EvalError.IsMismatch (op : Operator) (e : EvalError) : Prop := ∃ cause, e = .typeMismatch op cause

/-- What a judgement ends in: operands of the wrong type, or a pattern that is none. -/
inductive EvalError.OfJudgement : EvalError → Prop
  | typeMismatch (op : Operator) (cause : Mismatch) : OfJudgement (.typeMismatch op cause)
  | invalidPattern (pattern : String) : OfJudgement (.invalidPattern pattern)

theorem EvalError.OfJudgement.faultsOperands {e : EvalError} (h : e.OfJudgement) :
    e.FaultsOperands := by
  rintro cause rfl
  cases h

theorem EvalError.IsMismatch.ofJudgement {op : Operator} {e : EvalError} (h : e.IsMismatch op) :
    e.OfJudgement := by
  obtain ⟨cause, rfl⟩ := h
  exact .typeMismatch op cause

theorem isMismatch_of_reconcile {op : Operator} {target : ValueType} {rhs : Value} {e : EvalError}
    (h : reconcile op target rhs = .error e) : e.IsMismatch op := by
  unfold reconcile at h
  split at h
  · cases h
  · split at h
    · cases h
      exact ⟨_, rfl⟩
    · obtain ⟨cause, -, rfl⟩ := mapError_eq_error_iff.1 h
      exact ⟨_, rfl⟩

theorem isMismatch_of_checkOperator {op : Operator} {type : ValueType} {e : EvalError}
    (h : checkOperator op type = .error e) : e.IsMismatch op := by
  unfold checkOperator at h
  split at h
  · cases h
    exact ⟨_, rfl⟩
  · split at h
    · cases h
      exact ⟨_, rfl⟩
    · cases h

/-- Whatever keeps operands from being aligned is reported under the operator. -/
theorem isMismatch_of_align {op : Operator} {lhs rhs : Value} {e : EvalError}
    (h : align op lhs rhs = .error e) : e.IsMismatch op := by
  unfold align at h
  rcases bind_eq_error_iff.1 h with h | ⟨w, -, h⟩
  · exact isMismatch_of_reconcile h
  split at h
  · cases h
    exact ⟨_, rfl⟩
  rcases bind_eq_error_iff.1 h with h | ⟨u, -, h⟩
  · exact isMismatch_of_checkOperator h
  split at h <;> cases h
  exact ⟨_, rfl⟩

theorem failsOnly_judge (c : Comparator) (lhs rhs : Value) :
    FailsOnly EvalError.OfJudgement (c.judge settings lhs rhs) := by
  have like (verdict : Bool → Bool) : FailsOnly EvalError.OfJudgement
      (Comparator.judge.like settings c lhs rhs verdict) := by
    unfold Comparator.judge.like
    split
    · exact (failsOnly_matchLike _ _ (.invalidPattern _)).map verdict
    · exact failsOnly_throw (.typeMismatch _ _)
  cases c <;> first | exact like _ | exact failsOnly_pure _

/-- A comparator faults the operands only: the branch for other operators is not for it. -/
theorem failsOnly_compareValues (c : Comparator) (lhs rhs : Value) :
    FailsOnly EvalError.OfJudgement (compareValues settings (.compare c) lhs rhs) := by
  unfold compareValues
  split
  · exact failsOnly_pure _
  · exact (failsOnly_lift fun _ h => (isMismatch_of_align h).ofJudgement).bind fun rhs =>
      failsOnly_judge c lhs rhs

/-! ## Quantified comparisons -/

theorem steady_seek (sought : Bool) {judge : Value → Judging settings Bool}
    (h : ∀ v, (judge v).Steady) (elements : List Value) : (seek sought judge elements).Steady := by
  induction elements with
  | nil => exact steady_pure _
  | cons v rest ih =>
    refine (h v).bind fun verdict => ?_
    split
    · exact steady_pure _
    · exact ih

theorem failsOnly_seek {P : EvalError → Prop} (sought : Bool)
    {judge : Value → Judging settings Bool} (h : ∀ v, FailsOnly P (judge v)) (elements : List Value) :
    FailsOnly P (seek sought judge elements) := by
  induction elements with
  | nil => exact failsOnly_pure _
  | cons v rest ih =>
    refine (h v).bind fun verdict => ?_
    split
    · exact failsOnly_pure _
    · exact ih

/-- A quantified comparison comes to the same whatever patterns have been compiled before it. -/
theorem steady_quantify (q : Quantifier) (c : Operator) (lhs rhs : Value) :
    (quantify settings q c lhs rhs).Steady := by
  unfold quantify
  split
  · exact steady_pure _
  · split
    · split
      · exact steady_throw _
      · refine (steady_lift _).bind fun rhs => (steady_lift _).bind fun _ => ?_
        exact (steady_seek _ (fun v => steady_compareValues c v rhs) _).bind fun _ => steady_pure _
    · exact steady_throw _

theorem failsOnly_quantify (q : Quantifier) (c : Comparator) (lhs rhs : Value) :
    FailsOnly EvalError.OfJudgement (quantify settings q (.compare c) lhs rhs) := by
  unfold quantify
  split
  · exact failsOnly_pure _
  · split
    · split
      · exact failsOnly_throw (.typeMismatch _ _)
      · refine (failsOnly_lift fun _ h => (isMismatch_of_reconcile h).ofJudgement).bind fun rhs =>
          (failsOnly_lift fun _ h => (isMismatch_of_checkOperator h).ofJudgement).bind fun _ => ?_
        exact (failsOnly_seek _ (fun v => failsOnly_compareValues c v rhs) _).bind
          fun _ => failsOnly_pure _
    · exact failsOnly_throw (.typeMismatch _ _)

end InstanceFilter
