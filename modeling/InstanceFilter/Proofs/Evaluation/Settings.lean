/-
What the settings decide. A limit on the operations ends an evaluation before it begins, and once it
is passed it plays no part; the size limit of patterns and the treatment of case are asked by LIKE
and NOT_LIKE only. So two evaluations of one program under different settings run in step, machine
beside machine, as long as both are admitted and their patterns are matched alike.

The two machines carry caches of different types, so they are not compared as wholes: the relation
is that of their stacks and cursors. One lemma for each thing a machine does keeps it, the step and
the run follow, and no error on the way is that of the limit.
-/
import InstanceFilter.Proofs.Evaluation.Shape
import InstanceFilter.Proofs.Evaluation.Quantification

namespace InstanceFilter

open Judging

/-! ## Results in step -/

/-- An error that comes up while a program runs. -/
def EvalError.OfRun (e : EvalError) : Prop := ∀ limit found, e ≠ .limitExceeded limit found

theorem EvalError.OfJudgement.ofRun {e : EvalError} (h : e.OfJudgement) : e.OfRun := by
  rintro limit found rfl
  cases h

theorem EvalError.OfRun.malformed (cause : Malformation) :
    (EvalError.malformed cause).OfRun := by
  intro limit found h
  cases h

/-- Two results that are related, or one error of a run. -/
inductive InStep {α β : Type} (R : α → β → Prop) : Except EvalError α → Except EvalError β → Prop
  | ok {a : α} {b : β} : R a b → InStep R (.ok a) (.ok b)
  | error {e : EvalError} : e.OfRun → InStep R (.error e) (.error e)

theorem InStep.bind {α β γ δ : Type} {R : α → β → Prop} {S : γ → δ → Prop}
    {x : Except EvalError α} {y : Except EvalError β} {f : α → Except EvalError γ}
    {g : β → Except EvalError δ} (hx : InStep R x y)
    (hf : ∀ a b, R a b → InStep S (f a) (g b)) : InStep S (x >>= f) (y >>= g) := by
  cases hx with
  | ok hab => exact hf _ _ hab
  | error he => exact .error he

theorem InStep.eq {α : Type} {x y : Except EvalError α} (h : InStep Eq x y) : x = y := by
  cases h with
  | ok hab => rw [hab]
  | error _ => rfl

theorem InStep.ofRun {α β : Type} {R : α → β → Prop} {x : Except EvalError α}
    {y : Except EvalError β} {e : EvalError} (h : InStep R x y) (hx : x = .error e) : e.OfRun := by
  subst hx
  cases h with
  | error he => exact he

/-! ## Settings that match patterns alike -/

/-- The settings compile patterns under the same limit and treat case in the same way. -/
def Settings.MatchesLike (settings settings' : Settings) : Prop :=
  settings.patternSizeLimit = settings'.patternSizeLimit ∧
    settings.caseInsensitiveLike = settings'.caseInsensitiveLike

/-- The settings agree on what the comparator asks of them: only a pattern asks for anything. -/
def Settings.AgreeOn (settings settings' : Settings) (c : Comparator) : Prop :=
  c.isPattern = true → settings.MatchesLike settings'

section Judgements

variable {settings settings' : Settings}

theorem outcome_matchLike (h : settings.MatchesLike settings') (pattern text : String) :
    (matchLike settings pattern text).outcome = (matchLike settings' pattern text).outcome := by
  unfold outcome
  rw [run'_matchLike, run'_matchLike, h.1, h.2]

theorem outcome_judge_settings {c : Comparator} (h : settings.AgreeOn settings' c)
    (lhs rhs : Value) :
    (c.judge settings lhs rhs).outcome = (c.judge settings' lhs rhs).outcome := by
  have like (hpattern : c.isPattern = true) (verdict : Bool → Bool) :
      (Comparator.judge.like settings c lhs rhs verdict).outcome =
        (Comparator.judge.like settings' c lhs rhs verdict).outcome := by
    unfold Comparator.judge.like
    split
    · next text pattern =>
      have hmatch := outcome_matchLike (h hpattern) pattern text
      unfold outcome at hmatch ⊢
      rw [run'_map, run'_map, hmatch]
    · rfl
  cases c with
  | like => exact like rfl _
  | notLike => exact like rfl _
  | _ => rfl

theorem outcome_compareValues_settings {c : Comparator} (h : settings.AgreeOn settings' c)
    (lhs rhs : Value) : (compareValues settings (.compare c) lhs rhs).outcome =
      (compareValues settings' (.compare c) lhs rhs).outcome := by
  cases hnull : lhs.isNull with
  | true =>
    unfold compareValues
    rw [if_pos hnull, if_pos hnull]
    rfl
  | false =>
    rw [outcome_compareValues hnull, outcome_compareValues hnull]
    simp only [outcome_judge_settings h]

theorem outcome_quantify_settings (q : Quantifier) {c : Comparator}
    (h : settings.AgreeOn settings' c) (lhs rhs : Value) :
    (quantify settings q (.compare c) lhs rhs).outcome =
      (quantify settings' q (.compare c) lhs rhs).outcome := by
  cases lhs with
  | array items =>
    cases hrhs : rhs.isArray with
    | true =>
      unfold quantify
      simp only [hrhs]
      rfl
    | false =>
      rw [outcome_quantify hrhs, outcome_quantify hrhs]
      simp only [outcome_compareValues_settings h]
  | _ => rfl

end Judgements

/-! ## Machines in step -/

/-- The comparator of a comparison, quantified or not. -/
def Instruction.comparator? : Instruction → Option Comparator
  | .comparison c | .quantified _ c => some c
  | _ => none

theorem Instruction.compare_mem_of_comparator? {operations : List Operator}
    {instruction : Instruction} {c : Comparator} (hmem : instruction ∈ ofOperators operations)
    (hc : instruction.comparator? = some c) : .compare c ∈ operations := by
  fun_induction ofOperators operations with
  | case1 => cases hmem
  | case6 d rest ih =>
    rcases List.mem_cons.1 hmem with rfl | hmem
    · cases hc
      simp
    · simp [ih hmem]
  | case7 q d rest ih =>
    rcases List.mem_cons.1 hmem with rfl | hmem
    · cases hc
      simp
    · simp [ih hmem]
  | case8 q rest hq =>
    rw [List.mem_singleton.1 hmem] at hc
    cases hc
  | _ =>
    rename_i ih
    rcases List.mem_cons.1 hmem with rfl | hmem
    · cases hc
    · exact List.mem_cons_of_mem _ (ih hmem)

namespace Machine

variable {σ : Type} [PropertySource σ] {settings settings' : Settings} {m : Machine settings}
  {m' : Machine settings'}

/-- The same truth values on the stack and the same place among the operands. -/
def Alongside (m : Machine settings) (m' : Machine settings') : Prop :=
  m.stack = m'.stack ∧ m.cursor = m'.cursor

theorem Alongside.push (h : m.Alongside m') (result : Bool) :
    (m.push result).Alongside (m'.push result) := by
  constructor
  · unfold Machine.push
    rw [h.1]
  · exact h.2

theorem inStep_judge {x : Judging settings Bool} {x' : Judging settings' Bool}
    (hfails : x.FailsOnly EvalError.OfJudgement) (hx : x.Steady) (hx' : x'.Steady)
    (houtcome : x.outcome = x'.outcome) (h : m.Alongside m') :
    InStep Alongside (m.judge x) (m'.judge x') := by
  have hrun : x.run' m.patterns = x'.run' m'.patterns := by
    rw [hx m.patterns, hx' m'.patterns, houtcome]
  rw [StateT.run'_eq, StateT.run'_eq] at hrun
  unfold judge
  cases hr : x.run m.patterns with
  | error e =>
    cases hr' : x'.run m'.patterns with
    | error e' =>
      rw [hr, hr'] at hrun
      cases hrun
      exact .error (hfails _ _ hr).ofRun
    | ok r' =>
      rw [hr, hr'] at hrun
      cases hrun
  | ok r =>
    cases hr' : x'.run m'.patterns with
    | error e' =>
      rw [hr, hr'] at hrun
      cases hrun
    | ok r' =>
      rw [hr, hr'] at hrun
      have hresult : r.1 = r'.1 := Except.ok.inj hrun
      have hpushed := h.push r.1
      refine .ok ⟨hpushed.1.trans ?_, hpushed.2⟩
      rw [hresult]
      rfl

/-- The same truth value is taken from the top of both stacks. -/
theorem inStep_pop (h : m.Alongside m') (op : Operator) :
    InStep (fun r r' => r.1 = r'.1 ∧ r.2.Alongside r'.2) (m.pop op) (m'.pop op) := by
  unfold pop
  rw [← h.1]
  cases m.stack with
  | nil => exact .error (.malformed _)
  | cons top stack => exact .ok ⟨rfl, rfl, h.2⟩

theorem inStep_popTwo (h : m.Alongside m') (op : Operator) :
    InStep (fun r r' => r.1 = r'.1 ∧ r.2.1 = r'.2.1 ∧ r.2.2.Alongside r'.2.2)
      (m.popTwo op) (m'.popTwo op) := by
  unfold popTwo
  refine (inStep_pop h op).bind ?_
  rintro ⟨rhs, n⟩ ⟨rhs', n'⟩ ⟨hrhs, hn⟩
  refine (inStep_pop hn op).bind ?_
  rintro ⟨lhs, k⟩ ⟨lhs', k'⟩ ⟨hlhs, hk⟩
  exact .ok ⟨hlhs, hrhs, hk⟩

/-- Both take the same operand, or both find none. -/
theorem inStep_nextOperand (operands : List Value) (source : σ) (h : m.Alongside m')
    (op : Operator) :
    InStep (fun r r' => r.1 = r'.1 ∧ r.2.Alongside r'.2) (m.nextOperand operands source op)
      (m'.nextOperand operands source op) := by
  unfold nextOperand
  rw [← h.2]
  cases operands[m.cursor]? with
  | none => exact .error (.malformed _)
  | some operand => exact .ok ⟨rfl, h.1, rfl⟩

theorem inStep_nextTwo (operands : List Value) (source : σ) (h : m.Alongside m') (op : Operator) :
    InStep (fun r r' => r.1 = r'.1 ∧ r.2.1 = r'.2.1 ∧ r.2.2.Alongside r'.2.2)
      (m.nextTwo operands source op) (m'.nextTwo operands source op) := by
  unfold nextTwo
  refine (inStep_nextOperand operands source h op).bind ?_
  rintro ⟨lhs, n⟩ ⟨lhs', n'⟩ ⟨hlhs, hn⟩
  refine (inStep_nextOperand operands source hn op).bind ?_
  rintro ⟨rhs, k⟩ ⟨rhs', k'⟩ ⟨hrhs, hk⟩
  exact .ok ⟨hlhs, hrhs, hk⟩

/-- A step keeps machines alongside each other if the settings agree on its comparator. -/
theorem inStep_step (operands : List Value) (source : σ) (h : m.Alongside m')
    {instruction : Instruction}
    (hagree : ∀ c, instruction.comparator? = some c → settings.AgreeOn settings' c) :
    InStep Alongside (m.step settings operands source instruction)
      (m'.step settings' operands source instruction) := by
  cases instruction with
  | conjunction =>
    refine (inStep_popTwo h _).bind ?_
    rintro ⟨lhs, rhs, n⟩ ⟨_, _, n'⟩ ⟨rfl, rfl, hn⟩
    exact .ok (hn.push _)
  | disjunction =>
    refine (inStep_popTwo h _).bind ?_
    rintro ⟨lhs, rhs, n⟩ ⟨_, _, n'⟩ ⟨rfl, rfl, hn⟩
    exact .ok (hn.push _)
  | negation =>
    refine (inStep_pop h _).bind ?_
    rintro ⟨value, n⟩ ⟨_, n'⟩ ⟨rfl, hn⟩
    exact .ok (hn.push _)
  | nullTest =>
    refine (inStep_nextOperand operands source h _).bind ?_
    rintro ⟨value, n⟩ ⟨_, n'⟩ ⟨rfl, hn⟩
    exact .ok (hn.push _)
  | comparison c =>
    refine (inStep_nextTwo operands source h _).bind ?_
    rintro ⟨lhs, rhs, n⟩ ⟨_, _, n'⟩ ⟨rfl, rfl, hn⟩
    exact inStep_judge (failsOnly_compareValues c lhs rhs) (steady_compareValues _ lhs rhs)
      (steady_compareValues _ lhs rhs) (outcome_compareValues_settings (hagree c rfl) lhs rhs) hn
  | quantified q c =>
    refine (inStep_nextTwo operands source h _).bind ?_
    rintro ⟨lhs, rhs, n⟩ ⟨_, _, n'⟩ ⟨rfl, rfl, hn⟩
    exact inStep_judge (failsOnly_quantify q c lhs rhs) (steady_quantify q _ lhs rhs)
      (steady_quantify q _ lhs rhs) (outcome_quantify_settings q (hagree c rfl) lhs rhs) hn
  | incomplete q => exact .error (.malformed _)

/-- A run keeps machines alongside each other if the settings agree on all its comparators. -/
theorem inStep_run (operands : List Value) (source : σ) {instructions : List Instruction}
    (hagree : ∀ instruction ∈ instructions, ∀ c, instruction.comparator? = some c →
      settings.AgreeOn settings' c) (h : m.Alongside m') :
    InStep Alongside (instructions.foldlM (step settings operands source) m)
      (instructions.foldlM (step settings' operands source) m') := by
  induction instructions generalizing m m' with
  | nil => exact .ok h
  | cons instruction rest ih =>
    obtain ⟨hfirst, hrest⟩ := List.forall_mem_cons.1 hagree
    rw [List.foldlM_cons, List.foldlM_cons]
    exact (inStep_step operands source h hfirst).bind fun n n' hn => ih hrest hn

theorem inStep_verdict (h : m.Alongside m') : InStep Eq m.verdict m'.verdict := by
  unfold verdict
  rw [← h.1]
  split
  · exact .ok rfl
  · exact .error (.malformed _)

end Machine

/-! ## Evaluations in step -/

section Evaluate

variable {σ : Type} [PropertySource σ]

/-- Settings that both admit a program and agree on its comparators evaluate it in step. -/
theorem inStep_evaluate {settings settings' : Settings} {program : Program} (source : σ)
    (h : settings.Admits program.operations.length)
    (h' : settings'.Admits program.operations.length)
    (hagree : ∀ c, .compare c ∈ program.operations → settings.AgreeOn settings' c) :
    InStep Eq (evaluate settings program source) (evaluate settings' program source) := by
  rw [evaluate_of_admits source h, evaluate_of_admits source h']
  refine (Machine.inStep_run program.operands source ?_ ?_).bind fun m m' hm =>
    Machine.inStep_verdict hm
  · intro instruction hmem c hc
    exact hagree c (Instruction.compare_mem_of_comparator? hmem hc)
  · exact ⟨rfl, rfl⟩

/-- Where patterns are matched alike, or none is matched, the settings agree on every comparator. -/
theorem Settings.agreeOn_of {settings settings' : Settings} {operations : List Operator}
    (h : settings.MatchesLike settings' ∨
      .compare .like ∉ operations ∧ .compare .notLike ∉ operations) (c : Comparator)
    (hc : .compare c ∈ operations) : settings.AgreeOn settings' c := by
  intro hpattern
  rcases h with h | ⟨hlike, hnotLike⟩
  · exact h
  · cases c with
    | like => exact absurd hc hlike
    | notLike => exact absurd hc hnotLike
    | _ => cases hpattern

/-- The settings have their say in three places and no others. A limit that the operations of a
program exceed is reported with its value and their number, whatever else the program and the source
are. A program within the limit comes to what it comes to without one, which is never that error;
and all settings that admit it bring it to the same, verdict or error, if they match patterns alike
or the program matches none. -/
theorem evaluate_settings (settings : Settings) (program : Program) (source : σ) :
    (∀ limit ∈ settings.maxOperations, limit.toNat < program.operations.length →
      evaluate settings program source =
        .error (.limitExceeded limit.toNat program.operations.length)) ∧
    (settings.Admits program.operations.length →
      evaluate settings program source =
        evaluate { settings with maxOperations := none } program source ∧
      (∀ limit found,
        evaluate settings program source ≠ .error (.limitExceeded limit found)) ∧
      ∀ settings' : Settings, settings'.Admits program.operations.length →
        (settings.MatchesLike settings' ∨
          .compare .like ∉ program.operations ∧ .compare .notLike ∉ program.operations) →
        evaluate settings program source = evaluate settings' program source) := by
  refine ⟨fun limit hlimit hlt => ?_, fun h => ⟨?_, ?_, fun settings' h' hmatch => ?_⟩⟩
  · have hrefused : program.checkLimit settings =
        .error (.limitExceeded limit.toNat program.operations.length) := by
      unfold Program.checkLimit
      rw [Option.mem_def.1 hlimit]
      exact if_pos hlt
    unfold evaluate
    rw [hrefused]
    rfl
  · have hfree : { settings with maxOperations := none }.Admits program.operations.length := by
      rintro limit ⟨⟩
    exact (inStep_evaluate source h hfree fun c _ _ => ⟨rfl, rfl⟩).eq
  · intro limit found hexceeded
    have hself := inStep_evaluate source h h fun c _ _ => ⟨rfl, rfl⟩
    exact hself.ofRun hexceeded limit found rfl
  · exact (inStep_evaluate source h h' (Settings.agreeOn_of hmatch)).eq

/-- Three operations are one too many for a limit of two; under other limits, the case of letters
does not matter to a comparison of numbers. -/
theorem evaluate_settings_limits :
    let program : Program :=
      ⟨[.integer 1, .integer 2, .null], [.compare .gt, .isNull, .or], []⟩
    let narrow : Settings := ⟨1, false, some 2⟩
    let wide : Settings := ⟨1048576, true, some 3⟩
    wide.Admits program.operations.length ∧
      evaluate narrow program Record.empty = .error (.limitExceeded 2 3) ∧
      evaluate wide program Record.empty = evaluate ⟨1, false, none⟩ program Record.empty ∧
      evaluate wide program Record.empty = .ok true := by
  intro program narrow wide
  have hwide : wide.Admits program.operations.length := by
    rintro limit ⟨⟩
    decide
  have hfree : Settings.Admits ⟨1, false, none⟩ program.operations.length := by
    rintro limit ⟨⟩
  obtain ⟨hexceeded, -⟩ := evaluate_settings narrow program Record.empty
  obtain ⟨-, hadmitted⟩ := evaluate_settings wide program Record.empty
  obtain ⟨-, -, hother⟩ := hadmitted hwide
  refine ⟨hwide, hexceeded 2 rfl (by decide), hother _ hfree (.inr ?_), rfl⟩
  decide

end Evaluate

end InstanceFilter
