/-
The shape of a run: how many truth values the machine holds and how many operands it has taken.
No source has a say in it, so whether a program is malformed, and how, is found out without one.
The programs in which nothing is wrong are those whose operations are the postfix form of a formula
that takes no more operands than there are; they are never malformed, and the others never come to
a verdict.

One lemma compares a step of the machine with the step of its shape, and an induction over the
instructions carries it to runs. The way back, from shapes to formulas, builds for every successful
run of shapes the formulas that stand on its stack.
-/
import InstanceFilter.Proofs.Evaluation.Formula
import InstanceFilter.Source.Instance
import Mathlib.Data.List.Induction
import Mathlib.Tactic.ByContra

namespace InstanceFilter

/-- What a run looks like from every source. -/
structure Shape where
  depth : Nat
  cursor : Nat

namespace Shape

/-- The shape after a connective of so many truth values. -/
def join (s : Shape) (op : Operator) (arity : Nat) : Except Malformation Shape :=
  if s.depth < arity then .error (.stackUnderflow op)
  else .ok ⟨s.depth - arity + 1, s.cursor⟩

/-- The shape after an atom of so many operands, `count` being those of the program. -/
def take (count : Nat) (s : Shape) (op : Operator) (arity : Nat) : Except Malformation Shape :=
  if count < s.cursor + arity then .error (.missingOperand op (max s.cursor count) count)
  else .ok ⟨s.depth + 1, s.cursor + arity⟩

theorem take_of_le {count : Nat} {s : Shape} (op : Operator) {arity : Nat}
    (h : s.cursor + arity ≤ count) :
    s.take count op arity = .ok ⟨s.depth + 1, s.cursor + arity⟩ :=
  if_neg (Nat.not_lt.2 h)

theorem take_of_lt {count : Nat} {s : Shape} (op : Operator) {arity : Nat}
    (h : count < s.cursor + arity) :
    s.take count op arity = .error (.missingOperand op (max s.cursor count) count) :=
  if_pos h

/-- The shape after an instruction, or what is wrong with a program of `count` operands. -/
def step (count : Nat) (s : Shape) (instruction : Instruction) : Except Malformation Shape :=
  match instruction with
  | .conjunction | .disjunction => s.join instruction.operator 2
  | .negation => s.join instruction.operator 1
  | .nullTest | .comparison _ | .quantified .. =>
    s.take count instruction.operator instruction.arity
  | .incomplete _ => .error (.missingComparison instruction.operator)

/-- A finished run leaves one truth value. -/
def verdict (s : Shape) : Except Malformation Unit :=
  if s.depth = 1 then .ok () else .error (.resultsLeft s.depth)

end Shape

/-- What is wrong with the operations and the number of operands of a program, if anything. -/
def Program.check (program : Program) : Except Malformation Unit :=
  ((Instruction.ofOperators program.operations).foldlM
    (Shape.step program.operands.length) ⟨0, 0⟩).bind Shape.verdict

/-! ## Runs keep to their shape -/

/-- A result as far as the shape of the program decides it: a value is seen as the shape says, a
malformation is the one the shape shows, and the operands may end the run at any time. -/
inductive Keeps {α β : Type} (view : α → β) :
    Except EvalError α → Except Malformation β → Prop
  | value (a : α) : Keeps view (.ok a) (.ok (view a))
  | malformed (cause : Malformation) : Keeps view (.error (.malformed cause)) (.error cause)
  | operands {e : EvalError} (r : Except Malformation β) :
      e.FaultsOperands → Keeps view (.error e) r

theorem Keeps.bind {α β γ δ : Type} {view : α → β} {view' : γ → δ} {x : Except EvalError α}
    {r : Except Malformation β} {f : α → Except EvalError γ} {g : β → Except Malformation δ}
    (hx : Keeps view x r) (hf : ∀ a, Keeps view' (f a) (g (view a))) :
    Keeps view' (x >>= f) (r >>= g) := by
  cases hx with
  | value a => exact hf a
  | malformed cause => exact .malformed cause
  | operands r he => exact .operands _ he

theorem Keeps.of_ok {α β : Type} {view : α → β} {a : α} {r : Except Malformation β}
    (h : Keeps view (.ok a) r) : r = .ok (view a) := by
  cases h
  rfl

theorem Keeps.of_malformed {α β : Type} {view : α → β} {cause : Malformation}
    {r : Except Malformation β} (h : Keeps view (.error (.malformed cause)) r) :
    r = .error cause := by
  cases h with
  | malformed => rfl
  | operands r he => exact absurd rfl (he cause)

section Run

variable {σ : Type} [PropertySource σ] {settings : Settings}

namespace Machine

def shape (m : Machine settings) : Shape := ⟨m.stack.length, m.cursor⟩

/-- A judgement that faults the operands only pushes one truth value. -/
theorem keeps_judge {judgement : Judging settings Bool}
    (h : judgement.FailsOnly EvalError.OfJudgement) (m : Machine settings) :
    Keeps shape (m.judge judgement) (.ok ⟨m.stack.length + 1, m.cursor⟩) := by
  unfold judge
  cases hr : judgement.run m.patterns with
  | error e => exact .operands _ (h _ _ hr).faultsOperands
  | ok r => exact .value (⟨r.1 :: m.stack, m.cursor, r.2⟩ : Machine settings)

theorem nextOperand_of_lt {operands : List Value} (source : σ) {m : Machine settings}
    (op : Operator) (h : m.cursor < operands.length) :
    ∃ v, m.nextOperand operands source op = .ok (v, { m with cursor := m.cursor + 1 }) := by
  unfold nextOperand
  rw [List.getElem?_eq_getElem h]
  exact ⟨_, rfl⟩

theorem nextOperand_of_le {operands : List Value} (source : σ) {m : Machine settings}
    (op : Operator) (h : operands.length ≤ m.cursor) :
    m.nextOperand operands source op =
      .error (.malformed (.missingOperand op m.cursor operands.length)) := by
  unfold nextOperand
  rw [List.getElem?_eq_none h]

/-- An instruction that takes two operands and judges them. -/
theorem keeps_nextTwo {operands : List Value} (source : σ) (m : Machine settings) (op : Operator)
    {judgement : Value → Value → Judging settings Bool}
    (h : ∀ v w, (judgement v w).FailsOnly EvalError.OfJudgement) :
    Keeps shape (do
        let (lhs, rhs, m) ← m.nextTwo operands source op
        m.judge (judgement lhs rhs))
      (m.shape.take operands.length op 2) := by
  unfold nextTwo
  by_cases hv : m.cursor < operands.length
  · obtain ⟨v, hv'⟩ := nextOperand_of_lt source op hv
    rw [hv']
    by_cases hw : m.cursor + 1 < operands.length
    · obtain ⟨w, hw'⟩ := nextOperand_of_lt source (m := { m with cursor := m.cursor + 1 }) op hw
      rw [Shape.take_of_le op hw]
      simp only [bind, Except.bind, hw']
      exact keeps_judge (h v w) { m with cursor := m.cursor + 1 + 1 }
    -- only the first operand is left, and the cursor has moved past it
    · have hw' := nextOperand_of_le source (m := { m with cursor := m.cursor + 1 }) op
        (Nat.le_of_not_lt hw)
      have hmax : max m.shape.cursor operands.length = m.cursor + 1 := by
        simp only [shape]
        omega
      rw [Shape.take_of_lt op (Nat.lt_succ_of_le (Nat.le_of_not_lt hw)), hmax]
      simp only [bind, Except.bind, hw']
      exact .malformed _
  · have hv := Nat.le_of_not_lt hv
    have hmax : max m.shape.cursor operands.length = m.cursor := Nat.max_eq_left hv
    have hlt : operands.length < m.shape.cursor + 2 := Nat.lt_add_right 1 (Nat.lt_succ_of_le hv)
    rw [nextOperand_of_le source op hv, Shape.take_of_lt op hlt, hmax]
    exact .malformed _

/-- An instruction that takes one operand and pushes a truth value for it. -/
theorem keeps_nextOperand {operands : List Value} (source : σ) (m : Machine settings)
    (op : Operator) (truth : Value → Bool) :
    Keeps shape (do
        let (value, m) ← m.nextOperand operands source op
        return m.push (truth value))
      (m.shape.take operands.length op 1) := by
  by_cases h : m.cursor < operands.length
  · obtain ⟨v, hv⟩ := nextOperand_of_lt source op h
    rw [hv, Shape.take_of_le op h]
    exact .value (⟨truth v :: m.stack, m.cursor + 1, m.patterns⟩ : Machine settings)
  · have h := Nat.le_of_not_lt h
    have hmax : max m.shape.cursor operands.length = m.cursor := Nat.max_eq_left h
    rw [nextOperand_of_le source op h, Shape.take_of_lt op (Nat.lt_succ_of_le h), hmax]
    exact .malformed _

/-- A step of the machine keeps to the step of its shape. -/
theorem keeps_step (operands : List Value) (source : σ) (m : Machine settings)
    (instruction : Instruction) :
    Keeps shape (m.step settings operands source instruction)
      (m.shape.step operands.length instruction) := by
  cases instruction with
  | conjunction =>
    obtain ⟨_ | ⟨b, _ | ⟨a, stack⟩⟩, cursor, patterns⟩ := m
    · exact .malformed _
    · exact .malformed _
    · exact .value (⟨(a && b) :: stack, cursor, patterns⟩ : Machine settings)
  | disjunction =>
    obtain ⟨_ | ⟨b, _ | ⟨a, stack⟩⟩, cursor, patterns⟩ := m
    · exact .malformed _
    · exact .malformed _
    · exact .value (⟨(a || b) :: stack, cursor, patterns⟩ : Machine settings)
  | negation =>
    obtain ⟨_ | ⟨a, stack⟩, cursor, patterns⟩ := m
    · exact .malformed _
    · exact .value (⟨(!a) :: stack, cursor, patterns⟩ : Machine settings)
  | nullTest => exact keeps_nextOperand source m _ Value.isNull
  | comparison c => exact keeps_nextTwo source m _ fun v w => failsOnly_compareValues c v w
  | quantified q c => exact keeps_nextTwo source m _ fun v w => failsOnly_quantify q c v w
  | incomplete q => exact .malformed _

/-- A run keeps to the run of its shape. -/
theorem keeps_run (operands : List Value) (source : σ) (instructions : List Instruction)
    (m : Machine settings) :
    Keeps shape (instructions.foldlM (step settings operands source) m)
      (instructions.foldlM (Shape.step operands.length) m.shape) := by
  induction instructions generalizing m with
  | nil => exact .value m
  | cons instruction rest ih =>
    rw [List.foldlM_cons, List.foldlM_cons]
    exact (keeps_step operands source m instruction).bind ih

theorem keeps_verdict (m : Machine settings) :
    Keeps (fun _ => ()) m.verdict m.shape.verdict := by
  obtain ⟨_ | ⟨a, _ | ⟨b, stack⟩⟩, cursor, patterns⟩ := m
  · exact .malformed _
  · exact .value a
  · exact .malformed _

end Machine

/-- An evaluation keeps to the check of the program. -/
theorem keeps_evaluate {program : Program} (source : σ)
    (h : settings.Admits program.operations.length) :
    Keeps (fun _ => ()) (evaluate settings program source) program.check := by
  rw [evaluate_of_admits source h]
  exact (Machine.keeps_run _ _ _ _).bind Machine.keeps_verdict

end Run

/-! ## From shapes to formulas -/

/-- The operations that an instruction stands for. -/
def Instruction.operators : Instruction → List Operator
  | .quantified q c => [.quantify q, .compare c]
  | instruction => [instruction.operator]

/-- Operations without a quantifier left alone are those of their instructions. -/
theorem Instruction.flatMap_ofOperators {operations : List Operator}
    (h : ∀ q, .incomplete q ∉ ofOperators operations) :
    (ofOperators operations).flatMap operators = operations := by
  fun_induction ofOperators operations with
  | case1 => rfl
  | case8 q rest hq => exact absurd (List.mem_singleton_self _) (h q)
  | _ =>
    rename_i ih
    rw [List.flatMap_cons, ih fun q hq => h q (List.mem_cons_of_mem _ hq)]
    rfl

namespace Formula

theorem flatMap_instructions (f : Formula) :
    f.instructions.flatMap Instruction.operators = f.operations := by
  induction f with
  | atom a => cases a <;> rfl
  | negation f ih => rw [instructions, List.flatMap_append, ih]; rfl
  | conjunction f g ihf ihg =>
    rw [instructions, List.flatMap_append, List.flatMap_append, ihf, ihg]; rfl
  | disjunction f g ihf ihg =>
    rw [instructions, List.flatMap_append, List.flatMap_append, ihf, ihg]; rfl

theorem incomplete_notMem_instructions (f : Formula) (q : Quantifier) :
    .incomplete q ∉ f.instructions := by
  induction f with
  | atom a => cases a <;> simp [instructions, Atom.instruction]
  | negation f ih => simpa [instructions] using ih
  | conjunction f g ihf ihg => simpa [instructions] using ⟨ihf, ihg⟩
  | disjunction f g ihf ihg => simpa [instructions] using ⟨ihf, ihg⟩

/-- Any operands, as many as a formula has, are those of a formula with its operations. -/
theorem exists_relabelled (f : Formula) (operands : List Value)
    (h : operands.length = f.operands.length) :
    ∃ g : Formula, g.operations = f.operations ∧ g.operands = operands := by
  induction f generalizing operands with
  | atom a =>
    match a, operands, h with
    | .comparison c _ _, [lhs, rhs], _ => exact ⟨.atom (.comparison c lhs rhs), rfl, rfl⟩
    | .quantified q c _ _, [lhs, rhs], _ => exact ⟨.atom (.quantified q c lhs rhs), rfl, rfl⟩
    | .nullTest _, [operand], _ => exact ⟨.atom (.nullTest operand), rfl, rfl⟩
  | negation f ih =>
    obtain ⟨g, hg, rfl⟩ := ih operands h
    exact ⟨.negation g, by rw [operations, hg, operations], rfl⟩
  | conjunction f f' ih ih' =>
    simp only [Formula.operands, List.length_append] at h
    obtain ⟨g, hg, hv⟩ := ih (operands.take f.operands.length) (by simp; omega)
    obtain ⟨g', hg', hv'⟩ := ih' (operands.drop f.operands.length) (by simp; omega)
    refine ⟨.conjunction g g', by rw [operations, hg, hg', operations], ?_⟩
    rw [Formula.operands, hv, hv', List.take_append_drop]
  | disjunction f f' ih ih' =>
    simp only [Formula.operands, List.length_append] at h
    obtain ⟨g, hg, hv⟩ := ih (operands.take f.operands.length) (by simp; omega)
    obtain ⟨g', hg', hv'⟩ := ih' (operands.drop f.operands.length) (by simp; omega)
    refine ⟨.disjunction g g', by rw [operations, hg, hg', operations], ?_⟩
    rw [Formula.operands, hv, hv', List.take_append_drop]

end Formula

/-- Formulas on a stack, the top one first, that instructions have built from the operands they
have taken. -/
structure Builds (count : Nat) (instructions : List Instruction) (s : Shape)
    (forest : List Formula) : Prop where
  depth : forest.length = s.depth
  postfixed : forest.reverse.flatMap Formula.instructions = instructions
  taken : (forest.reverse.flatMap Formula.operands).length = s.cursor
  enough : s.cursor ≤ count

theorem Builds.atom {count : Nat} {instructions : List Instruction} {s t : Shape}
    {forest : List Formula} {op : Operator} (h : Builds count instructions s forest) (a : Atom)
    (hs : s.take count op a.operands.length = .ok t) :
    Builds count (instructions ++ [a.instruction]) t (.atom a :: forest) := by
  unfold Shape.take at hs
  split at hs
  · cases hs
  · next hle =>
    cases hs
    refine ⟨?_, ?_, ?_, Nat.le_of_not_lt hle⟩
    · rw [List.length_cons, h.depth]
    · rw [List.reverse_cons, List.flatMap_append, h.postfixed]; rfl
    · rw [List.reverse_cons, List.flatMap_append, List.length_append, h.taken]
      simp [Formula.operands]

theorem Builds.negation {count : Nat} {instructions : List Instruction} {s t : Shape}
    {forest : List Formula} {op : Operator} (h : Builds count instructions s forest)
    (hs : s.join op 1 = .ok t) :
    ∃ forest', Builds count (instructions ++ [.negation]) t forest' := by
  unfold Shape.join at hs
  split at hs
  · cases hs
  · next hle =>
    cases hs
    have hdepth := h.depth
    match forest, h with
    | [], h => simp at hdepth; omega
    | f :: rest, h =>
      simp only [List.length_cons] at hdepth
      refine ⟨.negation f :: rest, ?_, ?_, ?_, h.enough⟩
      · simp only [List.length_cons]; omega
      · rw [← h.postfixed]; simp [Formula.instructions]
      · rw [← h.taken]; simp [Formula.operands]

/-- A connective of two formulas, `join` being what it makes of them. -/
theorem Builds.connective {count : Nat} {instructions : List Instruction} {s t : Shape}
    {forest : List Formula} {op : Operator} (h : Builds count instructions s forest)
    {instruction : Instruction} (join : Formula → Formula → Formula)
    (hi : ∀ f g, (join f g).instructions = f.instructions ++ g.instructions ++ [instruction])
    (ho : ∀ f g, (join f g).operands = f.operands ++ g.operands)
    (hs : s.join op 2 = .ok t) :
    ∃ forest', Builds count (instructions ++ [instruction]) t forest' := by
  unfold Shape.join at hs
  split at hs
  · cases hs
  · next hle =>
    cases hs
    have hdepth := h.depth
    match forest, h with
    | [], h | [_], h => simp at hdepth; omega
    | g :: f :: rest, h =>
      simp only [List.length_cons] at hdepth
      refine ⟨join f g :: rest, ?_, ?_, ?_, h.enough⟩
      · simp only [List.length_cons]; omega
      · rw [← h.postfixed]; simp [hi]
      · rw [← h.taken]; simp [ho]

/-- One more instruction builds on: an atom comes on top, a connective joins what is there. Which
operands an atom has makes no difference, so Null stands for all of them. -/
theorem Builds.step {count : Nat} {instructions : List Instruction} {s t : Shape}
    {forest : List Formula} {instruction : Instruction} (h : Builds count instructions s forest)
    (hs : s.step count instruction = .ok t) :
    ∃ forest', Builds count (instructions ++ [instruction]) t forest' := by
  cases instruction with
  | conjunction => exact h.connective .conjunction (fun _ _ => rfl) (fun _ _ => rfl) hs
  | disjunction => exact h.connective .disjunction (fun _ _ => rfl) (fun _ _ => rfl) hs
  | negation => exact h.negation hs
  | nullTest => exact ⟨_, h.atom (.nullTest .null) hs⟩
  | comparison c => exact ⟨_, h.atom (.comparison c .null .null) hs⟩
  | quantified q c => exact ⟨_, h.atom (.quantified q c .null .null) hs⟩
  | incomplete q => cases hs

theorem exists_builds {count : Nat} {instructions : List Instruction} {s : Shape}
    (h : instructions.foldlM (Shape.step count) ⟨0, 0⟩ = .ok s) :
    ∃ forest, Builds count instructions s forest := by
  -- from the end, as the last instruction is the one that joins the formulas of the others
  induction instructions using List.reverseRec generalizing s with
  | nil =>
    cases h
    exact ⟨[], rfl, rfl, rfl, Nat.zero_le _⟩
  | append_singleton rest instruction ih =>
    rw [List.foldlM_append] at h
    cases hr : rest.foldlM (Shape.step count) ⟨0, 0⟩ with
    | error cause => rw [hr] at h; cases h
    | ok t =>
      rw [hr] at h
      obtain ⟨forest, hf⟩ := ih hr
      simp only [bind, Except.bind] at h
      exact hf.step (by simpa using h)

/-- A program whose operations are the postfix form of a formula that its operands suffice for. -/
def Program.WellFormed (program : Program) : Prop :=
  ∃ f : Formula, f.operations = program.operations ∧
    f.operands.length ≤ program.operands.length

/-- Nothing is wrong with well-formed programs only. -/
theorem Program.wellFormed_of_check {program : Program} (h : program.check = .ok ()) :
    program.WellFormed := by
  unfold check at h
  cases hr : (Instruction.ofOperators program.operations).foldlM
      (Shape.step program.operands.length) ⟨0, 0⟩ with
  | error cause => rw [hr] at h; cases h
  | ok s =>
    rw [hr] at h
    obtain ⟨forest, hf⟩ := exists_builds hr
    have hone : s.depth = 1 := by
      by_contra hne
      simp only [Except.bind, Shape.verdict, if_neg hne] at h
      cases h
    obtain ⟨f, rfl⟩ := List.length_eq_one_iff.1 (hf.depth.trans hone)
    have hi : f.instructions = Instruction.ofOperators program.operations := by
      simpa using hf.postfixed
    refine ⟨f, ?_, ?_⟩
    · rw [← f.flatMap_instructions, hi]
      exact Instruction.flatMap_ofOperators fun q => hi ▸ f.incomplete_notMem_instructions q
    · have := hf.taken
      have := hf.enough
      simp_all

/-! ## Malformed programs -/

/-- The machine after so many instructions of a program. -/
def Program.machineAfter {σ : Type} [PropertySource σ] (settings : Settings) (program : Program)
    (source : σ) (count : Nat) : Except EvalError (Machine settings) :=
  ((Instruction.ofOperators program.operations).take count).foldlM
    (Machine.step settings program.operands source) Machine.start

section Malformed

variable {σ τ : Type} [PropertySource σ] [PropertySource τ] {settings : Settings}

/-- The shape of a machine in a run is the same for every source. -/
theorem shape_machineAfter {program : Program} {source : σ} {count : Nat} {m : Machine settings}
    (h : program.machineAfter settings source count = .ok m) :
    ((Instruction.ofOperators program.operations).take count).foldlM
      (Shape.step program.operands.length) ⟨0, 0⟩ = .ok m.shape := by
  have hk := Machine.keeps_run program.operands source
    ((Instruction.ofOperators program.operations).take count) (Machine.start : Machine settings)
  unfold Program.machineAfter at h
  rw [h] at hk
  exact hk.of_ok

/-- A well-formed program comes to what a formula on its first operands comes to, and what further
operands it has makes no difference. -/
theorem evaluate_of_formula {program : Program} (source : σ)
    (h : settings.Admits program.operations.length) {f : Formula}
    (hf : f.operations = program.operations)
    (hn : f.operands.length ≤ program.operands.length) :
    ∃ g : Formula, ∀ surplus, evaluate settings
      { program with operands := program.operands.take f.operands.length ++ surplus } source =
        g.judge settings source := by
  obtain ⟨g, hops, hvals⟩ := f.exists_relabelled (program.operands.take f.operands.length)
    (List.length_take_of_le hn)
  exact ⟨g, fun surplus => evaluate_formula g source h (hops.trans hf).symm (by rw [hvals])⟩

/-- The judgement of an atom faults the operands only. -/
theorem Atom.faultsOperands_of_judge {source : σ} {a : Atom} {e : EvalError}
    (h : a.judge settings source = .error e) : e.FaultsOperands := by
  cases a with
  | comparison c lhs rhs => exact ((failsOnly_compareValues c _ _).outcome h).faultsOperands
  | quantified q c lhs rhs => exact ((failsOnly_quantify q c _ _).outcome h).faultsOperands
  | nullTest operand => cases h

theorem Formula.faultsOperands_of_judge {source : σ} {f : Formula} {e : EvalError}
    (h : f.judge settings source = .error e) : e.FaultsOperands := by
  rw [judge_eq] at h
  split at h
  · next e' he =>
    cases h
    obtain ⟨a, -, ha⟩ := List.exists_of_findSome?_eq_some he
    unfold Atom.error? at ha
    split at ha
    · cases ha
    · next hj =>
      cases ha
      exact a.faultsOperands_of_judge hj
  · cases h

/-- Being malformed is a matter of the program alone. A well-formed program never is, and operands
after those it takes change nothing. Any other program comes to no verdict on any source, and is
malformed in one way only. How deep the stack is and how many operands have been taken after so many
instructions is the same on every source. -/
theorem malformed_static (settings : Settings) (program : Program)
    (h : settings.Admits program.operations.length) :
    (∀ f : Formula, f.operations = program.operations →
      f.operands.length ≤ program.operands.length →
        (∀ (source : σ) cause, evaluate settings program source ≠ .error (.malformed cause)) ∧
        ∀ (source : σ) surplus, evaluate settings
          { program with operands := program.operands.take f.operands.length ++ surplus } source =
            evaluate settings program source) ∧
    (¬ program.WellFormed →
      (∀ (source : σ) verdict, evaluate settings program source ≠ .ok verdict) ∧
      ∀ (source : σ) (source' : τ) cause cause',
        evaluate settings program source = .error (.malformed cause) →
        evaluate settings program source' = .error (.malformed cause') → cause = cause') ∧
    ∀ (source : σ) (source' : τ) count m m',
      program.machineAfter settings source count = .ok m →
      program.machineAfter settings source' count = .ok m' →
        m.stack.length = m'.stack.length ∧ m.cursor = m'.cursor := by
  refine ⟨fun f hf hn => ?_, fun hw => ?_, fun source source' count m m' hm hm' => ?_⟩
  · have hself (source : σ) : ∃ g : Formula,
        evaluate settings program source = g.judge settings source ∧ ∀ surplus, evaluate settings
          { program with operands := program.operands.take f.operands.length ++ surplus } source =
            g.judge settings source := by
      obtain ⟨g, hg⟩ := evaluate_of_formula source h hf hn
      refine ⟨g, ?_, hg⟩
      rw [← hg (program.operands.drop f.operands.length), List.take_append_drop]
    refine ⟨fun source cause he => ?_, fun source surplus => ?_⟩
    · obtain ⟨g, hg, -⟩ := hself source
      rw [hg] at he
      exact g.faultsOperands_of_judge he cause rfl
    · obtain ⟨g, hg, hs⟩ := hself source
      rw [hg, hs]
  · cases hc : program.check with
    | ok u => exact absurd (Program.wellFormed_of_check hc) hw
    | error cause =>
      refine ⟨fun source verdict hv => ?_, fun source source' c c' he he' => ?_⟩
      · have hk := keeps_evaluate source h
        rw [hv, hc] at hk
        cases hk.of_ok
      · have hk := keeps_evaluate source h
        have hk' := keeps_evaluate source' h
        rw [he] at hk
        rw [he'] at hk'
        exact Except.error.inj (hk.of_malformed.symm.trans hk'.of_malformed)
  · have := (shape_machineAfter hm).symm.trans (shape_machineAfter hm')
    simp only [Except.ok.injEq, Machine.shape, Shape.mk.injEq] at this
    exact this

/-- Two null tests with nothing to join them are no formula, and come to no verdict. -/
theorem malformed_static_unjoined :
    let program : Program := ⟨[.integer 1, .integer 2], [.isNull, .isNull], []⟩
    Settings.default.Admits program.operations.length ∧ ¬ program.WellFormed ∧
      ∀ (source : Instance) verdict, evaluate .default program source ≠ .ok verdict := by
  intro program
  have h : Settings.default.Admits program.operations.length := by rintro limit ⟨⟩
  obtain ⟨hformed, hother, -⟩ := malformed_static (σ := Instance) (τ := Record) .default program h
  have hw : ¬ program.WellFormed := by
    rintro ⟨f, hf, hn⟩
    exact (hformed f hf hn).1 (Instance.ofClass "") _ rfl
  exact ⟨h, hw, (hother hw).1⟩

end Malformed

end InstanceFilter
