/-
Formulas: the expressions that programs are compiled from, with their meaning said directly. An
atom is judged on its own, its patterns compiled afresh; the connectives are those of truth values
and judge both sides. The compiled form lists the operands from left to right and the operations in
postfix order, and evaluating it comes to the meaning of the formula: the error of the first atom
that has one, else the truth value of the connectives.

The induction is over the formula, for a machine anywhere in a run: what has been pushed, taken and
compiled before is left as it is, whatever operands and instructions follow.
-/
import InstanceFilter.Evaluation.Machine
import InstanceFilter.Proofs.Evaluation.Judging

namespace InstanceFilter

/-- What a filter decides about its operands. -/
inductive Atom where
  | comparison (c : Comparator) (lhs rhs : Value)
  | quantified (q : Quantifier) (c : Comparator) (lhs rhs : Value)
  | nullTest (operand : Value)

inductive Formula where
  | atom (a : Atom)
  | negation (f : Formula)
  | conjunction (f g : Formula)
  | disjunction (f g : Formula)

/-! ## Compiled form -/

namespace Atom

def operands : Atom → List Value
  | .comparison _ lhs rhs | .quantified _ _ lhs rhs => [lhs, rhs]
  | .nullTest operand => [operand]

def operations : Atom → List Operator
  | .comparison c _ _ => [.compare c]
  | .quantified q c _ _ => [.quantify q, .compare c]
  | .nullTest _ => [.isNull]

def instruction : Atom → Instruction
  | .comparison c _ _ => .comparison c
  | .quantified q c _ _ => .quantified q c
  | .nullTest _ => .nullTest

end Atom

namespace Formula

/-- The operands from left to right. -/
def operands : Formula → List Value
  | .atom a => a.operands
  | .negation f => f.operands
  | .conjunction f g | .disjunction f g => f.operands ++ g.operands

/-- The operations in postfix order. -/
def operations : Formula → List Operator
  | .atom a => a.operations
  | .negation f => f.operations ++ [.not]
  | .conjunction f g => f.operations ++ g.operations ++ [.and]
  | .disjunction f g => f.operations ++ g.operations ++ [.or]

def compile (f : Formula) (propertyNames : List String) : Program :=
  ⟨f.operands, f.operations, propertyNames⟩

/-- The operations as the steps of the machine. -/
def instructions : Formula → List Instruction
  | .atom a => [a.instruction]
  | .negation f => f.instructions ++ [.negation]
  | .conjunction f g => f.instructions ++ g.instructions ++ [.conjunction]
  | .disjunction f g => f.instructions ++ g.instructions ++ [.disjunction]

theorem ofOperators_atom (a : Atom) (rest : List Operator) :
    Instruction.ofOperators (a.operations ++ rest) =
      a.instruction :: Instruction.ofOperators rest := by
  cases a <;> rfl

theorem ofOperators_append (f : Formula) (rest : List Operator) :
    Instruction.ofOperators (f.operations ++ rest) =
      f.instructions ++ Instruction.ofOperators rest := by
  induction f generalizing rest with
  | atom a => exact ofOperators_atom a rest
  | negation f ih => simp only [operations, instructions, List.append_assoc, ih]; rfl
  | conjunction f g ihf ihg =>
    simp only [operations, instructions, List.append_assoc, ihf, ihg]; rfl
  | disjunction f g ihf ihg =>
    simp only [operations, instructions, List.append_assoc, ihf, ihg]; rfl

theorem ofOperators_operations (f : Formula) :
    Instruction.ofOperators f.operations = f.instructions := by
  have := ofOperators_append f []
  rwa [List.append_nil, Instruction.ofOperators, List.append_nil] at this

end Formula

/-! ## Meaning -/

variable {σ : Type} [PropertySource σ]

/-- What an atom comes to, its operands resolved and its patterns compiled for it alone. -/
def Atom.judge (settings : Settings) (source : σ) : Atom → Except EvalError Bool
  | .comparison c lhs rhs =>
    (compareValues settings (.compare c) (lhs.resolve source) (rhs.resolve source)).outcome
  | .quantified q c lhs rhs =>
    (quantify settings q (.compare c) (lhs.resolve source) (rhs.resolve source)).outcome
  | .nullTest operand => .ok (operand.resolve source).isNull

/-- The error that an atom ends in. -/
def Atom.error? (settings : Settings) (source : σ) (a : Atom) : Option EvalError :=
  match a.judge settings source with
  | .ok _ => none
  | .error e => some e

/-- Whether an atom is judged to hold. -/
def Atom.holds (settings : Settings) (source : σ) (a : Atom) : Bool :=
  match a.judge settings source with
  | .ok verdict => verdict
  | .error _ => false

namespace Formula

/-- What a formula comes to; both sides of a connective are judged, whatever the first comes to. -/
def judge (settings : Settings) (source : σ) : Formula → Except EvalError Bool
  | .atom a => a.judge settings source
  | .negation f => return !(← f.judge settings source)
  | .conjunction f g => do
    let lhs ← f.judge settings source
    let rhs ← g.judge settings source
    return lhs && rhs
  | .disjunction f g => do
    let lhs ← f.judge settings source
    let rhs ← g.judge settings source
    return lhs || rhs

/-- The atoms from left to right. -/
def atoms : Formula → List Atom
  | .atom a => [a]
  | .negation f => f.atoms
  | .conjunction f g | .disjunction f g => f.atoms ++ g.atoms

/-- The truth value of a formula, given those of its atoms. -/
def holds (truth : Atom → Bool) : Formula → Bool
  | .atom a => truth a
  | .negation f => !f.holds truth
  | .conjunction f g => f.holds truth && g.holds truth
  | .disjunction f g => f.holds truth || g.holds truth

/-- A formula comes to the error of its first atom that has one, else to its truth value. -/
theorem judge_eq (settings : Settings) (source : σ) (f : Formula) :
    f.judge settings source =
      match f.atoms.findSome? (Atom.error? settings source) with
      | some e => .error e
      | none => .ok (f.holds (Atom.holds settings source)) := by
  induction f with
  | atom a =>
    simp only [judge, atoms, holds, List.findSome?_cons, List.findSome?_nil, Atom.error?,
      Atom.holds]
    cases a.judge settings source <;> rfl
  | negation f ih =>
    simp only [judge, atoms, holds, ih]
    cases f.atoms.findSome? (Atom.error? settings source) <;> rfl
  | conjunction f g ihf ihg =>
    simp only [judge, atoms, holds, ihf, ihg, List.findSome?_append]
    cases f.atoms.findSome? (Atom.error? settings source) <;>
      cases g.atoms.findSome? (Atom.error? settings source) <;> rfl
  | disjunction f g ihf ihg =>
    simp only [judge, atoms, holds, ihf, ihg, List.findSome?_append]
    cases f.atoms.findSome? (Atom.error? settings source) <;>
      cases g.atoms.findSome? (Atom.error? settings source) <;> rfl

end Formula

/-! ## Running the compiled form -/

namespace Machine

variable {settings : Settings}

/-- Running instructions from a machine takes `count` operands and comes to `r`: a truth value on
top of those already there, or an error. -/
def Yields (operands : List Value) (source : σ) (m : Machine settings)
    (instructions : List Instruction) (count : Nat) : Except EvalError Bool → Prop
  | .ok verdict => ∃ patterns, instructions.foldlM (step settings operands source) m =
      .ok ⟨verdict :: m.stack, m.cursor + count, patterns⟩
  | .error e => instructions.foldlM (step settings operands source) m = .error e

theorem nextOperand_eq {operands before after : List Value} {v : Value} (source : σ)
    {m : Machine settings} (op : Operator) (h : operands = before ++ v :: after)
    (hm : m.cursor = before.length) :
    m.nextOperand operands source op =
      .ok (v.resolve source, { m with cursor := m.cursor + 1 }) := by
  unfold nextOperand
  rw [h, hm, List.getElem?_append_right (Nat.le_refl _)]
  simp

theorem nextTwo_eq {operands before after : List Value} {v w : Value} (source : σ)
    {m : Machine settings} (op : Operator) (h : operands = before ++ v :: w :: after)
    (hm : m.cursor = before.length) :
    m.nextTwo operands source op =
      .ok (v.resolve source, w.resolve source, { m with cursor := m.cursor + 2 }) := by
  have h' : operands = (before ++ [v]) ++ w :: after := by simpa using h
  unfold nextTwo
  rw [nextOperand_eq source op h hm]
  simp only [bind, Except.bind]
  rw [nextOperand_eq source op h' (by simp [hm])]
  rfl

/-- An instruction that ends in a steady judgement comes to what the judgement comes to. -/
theorem yields_of_judge {operands : List Value} {source : σ} {m : Machine settings}
    {instruction : Instruction} {count : Nat} {judgement : Judging settings Bool}
    (h : judgement.Steady) (hstep : m.step settings operands source instruction =
      { m with cursor := m.cursor + count }.judge judgement) :
    m.Yields operands source [instruction] count judgement.outcome := by
  simp only [Yields, List.foldlM_cons, List.foldlM_nil, bind_pure, hstep]
  rw [← h m.patterns, StateT.run'_eq]
  unfold judge
  cases judgement.run m.patterns with
  | error e => rfl
  | ok r => exact ⟨r.2, rfl⟩

theorem yields_atom (a : Atom) {operands before after : List Value} (source : σ)
    {m : Machine settings} (h : operands = before ++ (a.operands ++ after))
    (hm : m.cursor = before.length) :
    m.Yields operands source [a.instruction] a.operands.length (a.judge settings source) := by
  cases a with
  | comparison c lhs rhs =>
    refine yields_of_judge (steady_compareValues _ _ _) ?_
    simp only [Atom.instruction, step]
    rw [nextTwo_eq source _ h hm]
    rfl
  | quantified q c lhs rhs =>
    refine yields_of_judge (steady_quantify _ _ _ _) ?_
    simp only [Atom.instruction, step]
    rw [nextTwo_eq source _ h hm]
    rfl
  | nullTest operand =>
    refine ⟨m.patterns, ?_⟩
    simp only [Atom.instruction, List.foldlM_cons, List.foldlM_nil, step]
    rw [nextOperand_eq source _ h hm]
    rfl

/-- The two sides of a connective run one after the other, and its step joins what they left. -/
theorem yields_connective {operands : List Value} {source : σ} {m : Machine settings}
    {lhs rhs : List Instruction} {i j : Nat} {r s : Except EvalError Bool}
    {connective : Instruction} {join : Bool → Bool → Bool}
    (hstep : ∀ (a b : Bool) stack cursor (patterns : settings.Patterns),
      step settings operands source ⟨b :: a :: stack, cursor, patterns⟩ connective =
        .ok ⟨join a b :: stack, cursor, patterns⟩)
    (hl : m.Yields operands source lhs i r)
    (hr : ∀ n : Machine settings, n.cursor = m.cursor + i → n.Yields operands source rhs j s) :
    m.Yields operands source (lhs ++ rhs ++ [connective]) (i + j)
      (do return join (← r) (← s)) := by
  cases r with
  | error e =>
    simp only [Yields, List.foldlM_append] at hl ⊢
    rw [hl]
    rfl
  | ok a =>
    obtain ⟨patterns, hl⟩ := hl
    -- the right side starts where the left one ended, with the patterns kept there
    have hr := hr ⟨a :: m.stack, m.cursor + i, patterns⟩ rfl
    cases s with
    | error e =>
      simp only [Yields, List.foldlM_append] at hr ⊢
      rw [hl]
      simp only [bind, Except.bind, hr]
    | ok b =>
      obtain ⟨patterns', hr⟩ := hr
      refine ⟨patterns', ?_⟩
      rw [List.foldlM_append, List.foldlM_append, hl]
      simp only [bind, Except.bind, hr, List.foldlM_cons, hstep, ← Nat.add_assoc]
      rfl

theorem yields_negation {operands : List Value} {source : σ} {m : Machine settings}
    {instructions : List Instruction} {count : Nat} {r : Except EvalError Bool}
    (h : m.Yields operands source instructions count r) :
    m.Yields operands source (instructions ++ [.negation]) count (do return !(← r)) := by
  cases r with
  | error e =>
    simp only [Yields, List.foldlM_append] at h ⊢
    rw [h]
    rfl
  | ok a =>
    obtain ⟨patterns, h⟩ := h
    refine ⟨patterns, ?_⟩
    rw [List.foldlM_append, h]
    rfl

theorem yields_formula (f : Formula) {operands before after : List Value} (source : σ)
    {m : Machine settings} (h : operands = before ++ (f.operands ++ after))
    (hm : m.cursor = before.length) :
    m.Yields operands source f.instructions f.operands.length (f.judge settings source) := by
  induction f generalizing before after m with
  | atom a => exact yields_atom a source h hm
  | negation f ih => exact yields_negation (ih h hm)
  | conjunction f g ihf ihg =>
    simp only [Formula.operands, List.append_assoc] at h
    simp only [Formula.operands, List.length_append]
    have h' : operands = (before ++ f.operands) ++ (g.operands ++ after) := by simpa using h
    refine yields_connective (fun _ _ _ _ _ => rfl) (ihf h hm) fun n hn => ?_
    exact ihg h' (by rw [hn, hm, List.length_append])
  | disjunction f g ihf ihg =>
    simp only [Formula.operands, List.append_assoc] at h
    simp only [Formula.operands, List.length_append]
    have h' : operands = (before ++ f.operands) ++ (g.operands ++ after) := by simpa using h
    refine yields_connective (fun _ _ _ _ _ => rfl) (ihf h hm) fun n hn => ?_
    exact ihg h' (by rw [hn, hm, List.length_append])

end Machine

/-! ## Evaluating the compiled form -/

/-- Whether a program of so many operations may run under the settings. -/
def Settings.Admits (settings : Settings) (count : Nat) : Prop :=
  ∀ limit ∈ settings.maxOperations, count ≤ limit.toNat

theorem Program.checkLimit_of_admits {settings : Settings} {program : Program}
    (h : settings.Admits program.operations.length) : program.checkLimit settings = .ok () := by
  unfold checkLimit
  split
  · next limit hl =>
    rw [if_neg (Nat.not_lt.2 (h limit hl))]
  · rfl

/-- Evaluating an admitted program is running its instructions. -/
theorem evaluate_of_admits {settings : Settings} {program : Program} (source : σ)
    (h : settings.Admits program.operations.length) :
    evaluate settings program source =
      ((Instruction.ofOperators program.operations).foldlM
        (Machine.step settings program.operands source) Machine.start).bind Machine.verdict := by
  unfold evaluate
  rw [Program.checkLimit_of_admits h]
  rfl

/-- A program whose operations are those of a formula and whose operands begin with those of the
formula comes to the meaning of the formula. -/
theorem evaluate_formula {settings : Settings} {program : Program} (f : Formula) (source : σ)
    (h : settings.Admits program.operations.length) (hops : program.operations = f.operations)
    {surplus : List Value} (hvals : program.operands = f.operands ++ surplus) :
    evaluate settings program source = f.judge settings source := by
  have hvals' : program.operands = [] ++ (f.operands ++ surplus) := hvals
  have hrun : Machine.start.Yields program.operands source f.instructions f.operands.length
      (f.judge settings source) := Machine.yields_formula f source hvals' rfl
  rw [evaluate_of_admits source h, hops, Formula.ofOperators_operations]
  cases hj : f.judge settings source with
  | error e =>
    rw [hj] at hrun
    simp only [Machine.Yields] at hrun
    rw [hrun]
    rfl
  | ok verdict =>
    rw [hj] at hrun
    obtain ⟨patterns, hrun⟩ := hrun
    rw [hrun]
    rfl

/-- Evaluating a compiled formula comes to its meaning: each atom judged on its own, and of several
errors the one of the first atom from the left, whatever the connectives could do without it. -/
theorem evaluate_compile (settings : Settings) (f : Formula) (propertyNames : List String)
    (source : σ) (h : settings.Admits f.operations.length) :
    evaluate settings (f.compile propertyNames) source = f.judge settings source ∧
      f.judge settings source =
        match f.atoms.findSome? (Atom.error? settings source) with
        | some e => .error e
        | none => .ok (f.holds (Atom.holds settings source)) :=
  ⟨evaluate_formula f source h rfl (List.append_nil _).symm, f.judge_eq settings source⟩

/-- A disjunction whose left side holds still ends in the error of its right side. -/
theorem evaluate_compile_disjunction :
    let settings : Settings := ⟨1048576, false, some 3⟩
    let f : Formula := .disjunction (.atom (.comparison .eq (.integer 10) (.integer 10)))
      (.atom (.comparison .eq (.boolean true) (.integer 1)))
    settings.Admits f.operations.length ∧
      evaluate settings (f.compile []) Record.empty = .error
        (.typeMismatch (.compare .eq) (.incomparable Kind.boolean.scalar Kind.integer.scalar)) := by
  intro settings f
  have h : settings.Admits f.operations.length := by
    rintro limit ⟨⟩
    decide
  obtain ⟨hmeaning, hatoms⟩ := evaluate_compile settings f [] Record.empty h
  refine ⟨h, ?_⟩
  rw [hmeaning, hatoms]
  rfl

end InstanceFilter
