/-
Judgements: what is decided about operands while the patterns compiled on the way are kept for the
next one. A judgement that asks the kept patterns for answers only comes to the same whatever has
been kept.
-/
import InstanceFilter.Evaluation.Error
import InstanceFilter.Pattern.Cache
import InstanceFilter.Settings.Basic

namespace InstanceFilter

/-- Patterns compiled under the settings. -/
abbrev Settings.Patterns (settings : Settings) : Type :=
  Pattern.Cache settings.patternSizeLimit.toNat settings.caseInsensitiveLike

/-- A decision that looks patterns up and keeps those it compiles. -/
abbrev Judging (settings : Settings) : Type → Type :=
  StateT settings.Patterns (Except EvalError)

/-- Whether a text is like a pattern under the settings. -/
def matchLike (settings : Settings) (pattern text : String) : Judging settings Bool :=
  fun patterns =>
    match patterns.like? pattern text with
    | some answer => .ok answer
    | none => .error (.invalidPattern pattern)

namespace Judging

variable {settings : Settings} {α β : Type}

/-- What a judgement comes to on its own, before any pattern has been compiled. -/
def outcome (x : Judging settings α) : Except EvalError α := x.run' .empty

/-- A judgement that comes to the same whatever patterns have been compiled before it. -/
def Steady (x : Judging settings α) : Prop := ∀ patterns, x.run' patterns = x.outcome

theorem run'_bind (x : Judging settings α) (f : α → Judging settings β)
    (patterns : settings.Patterns) :
    (x >>= f).run' patterns = x.run patterns >>= fun (a, later) => (f a).run' later := by
  simp only [StateT.run'_eq, StateT.run_bind, map_bind]

theorem steady_lift (r : Except EvalError α) : (liftM r : Judging settings α).Steady := by
  intro patterns
  cases r <;> rfl

/-- Judgements one after the other: steady ones come to what each comes to on its own. -/
theorem outcome_bind {x : Judging settings α} {f : α → Judging settings β}
    (hf : ∀ a, (f a).Steady) : (x >>= f).outcome = x.outcome >>= fun a => (f a).outcome := by
  unfold outcome
  rw [run'_bind, StateT.run'_eq, bind_map_left]
  congr 1
  funext r
  exact hf r.1 r.2

theorem Steady.bind {x : Judging settings α} {f : α → Judging settings β} (hx : x.Steady)
    (hf : ∀ a, (f a).Steady) : (x >>= f).Steady := by
  intro patterns
  rw [outcome_bind hf, ← hx patterns, run'_bind, StateT.run'_eq, bind_map_left]
  congr 1
  funext r
  exact hf r.1 r.2

end Judging

end InstanceFilter
