/-
What a program sees of a source: the values that its operands resolve to, and nothing else. Two
programs with the same operations whose operands resolve to the same values, or to values that no
operation tells apart, each against a source of its own, run in step, whether they are well formed
or not, and come to the same verdict or the same error. So the references of a program may be
replaced, ahead of its evaluation, by the values that they lead to, and what is left needs no source.

One lemma says it of the operand that is taken next, from which it follows for a step of the machine
and for a run.
-/
import InstanceFilter.Evaluation.Machine
import InstanceFilter.Source.Instance
import Mathlib.Data.List.Forall2

namespace InstanceFilter

/-- The program with each reference replaced by the value it leads to, or by Null. -/
def Program.substitute {σ : Type} [PropertySource σ] (program : Program) (source : σ) : Program :=
  { program with operands := program.operands.map (Value.resolve source) }

/-! ## Values that are not told apart -/

/-- In lists that pair up, the items at one place pair up. -/
theorem getElem?_forall₂ {α β : Type} {R : α → β → Prop} {items : List α} {items' : List β}
    (h : List.Forall₂ R items items') (index : Nat) :
    Option.Rel R items[index]? items'[index]? := by
  induction h generalizing index with
  | nil => exact .none
  | cons hitem _ ih =>
    cases index with
    | zero => exact .some hitem
    | succ index => exact ih index

/-- Operands that no operation tells apart, on either side of any other operand. -/
structure Value.Interchangeable (settings : Settings) (v w : Value) : Prop where
  isNull : v.isNull = w.isNull
  onLeft (op : Operator) (u : Value) :
    compareValues settings op v u = compareValues settings op w u
  onRight (op : Operator) (u : Value) :
    compareValues settings op u v = compareValues settings op u w
  quantified (q : Quantifier) (op : Operator) (u : Value) :
    quantify settings q op v u = quantify settings q op w u
  underQuantifier (q : Quantifier) (op : Operator) (u : Value) :
    quantify settings q op u v = quantify settings q op u w

theorem Value.Interchangeable.refl (settings : Settings) (v : Value) :
    v.Interchangeable settings v where
  isNull := rfl
  onLeft _ _ := rfl
  onRight _ _ := rfl
  quantified _ _ _ := rfl
  underQuantifier _ _ _ := rfl

/-! ## Runs in step -/

section Run

variable {σ τ : Type} [PropertySource σ] [PropertySource τ] {settings : Settings}

namespace Machine

/-- The next operand is taken from the resolved ones. -/
theorem nextOperand_eq_resolved (operands : List Value) (source : σ) (m : Machine settings)
    (op : Operator) :
    m.nextOperand operands source op =
      match (operands.map (Value.resolve source))[m.cursor]? with
      | some v => .ok (v, { m with cursor := m.cursor + 1 })
      | none => .error (.malformed (.missingOperand op m.cursor
          (operands.map (Value.resolve source)).length)) := by
  unfold nextOperand
  rw [List.getElem?_map, List.length_map]
  cases operands[m.cursor]? <;> rfl

section Congruence

variable {operands operands' : List Value} {source : σ} {source' : τ}
  (h : List.Forall₂ (Value.Interchangeable settings) (operands.map (Value.resolve source))
    (operands'.map (Value.resolve source')))
include h

theorem nextOperand_bind_congr {α : Type} {f g : Value × Machine settings → Except EvalError α}
    (m : Machine settings) (op : Operator)
    (hnext : ∀ v w next, v.Interchangeable settings w → f (v, next) = g (w, next)) :
    (m.nextOperand operands source op >>= f) = m.nextOperand operands' source' op >>= g := by
  have hplace := getElem?_forall₂ h m.cursor
  rw [nextOperand_eq_resolved, nextOperand_eq_resolved, h.length_eq]
  generalize (operands.map (Value.resolve source))[m.cursor]? = found,
    (operands'.map (Value.resolve source'))[m.cursor]? = found' at hplace ⊢
  cases hplace with
  | none => rfl
  | some hsame => exact hnext _ _ _ hsame

theorem nextTwo_bind_congr {α : Type}
    {f g : Value × Value × Machine settings → Except EvalError α} (m : Machine settings)
    (op : Operator)
    (hnext : ∀ v v' w w' next, v.Interchangeable settings v' → w.Interchangeable settings w' →
      f (v, w, next) = g (v', w', next)) :
    (m.nextTwo operands source op >>= f) = m.nextTwo operands' source' op >>= g := by
  simp only [nextTwo, bind_assoc, pure_bind]
  exact nextOperand_bind_congr h m op fun v v' next hleft =>
    nextOperand_bind_congr h next op fun w w' next hright => hnext v v' w w' next hleft hright

/-- Once its operands are resolved, an instruction asks neither the source nor the program again. -/
theorem step_congr (m : Machine settings) (instruction : Instruction) :
    m.step settings operands source instruction =
      m.step settings operands' source' instruction := by
  cases instruction with
  | conjunction => rfl
  | disjunction => rfl
  | negation => rfl
  | nullTest =>
    refine nextOperand_bind_congr h m _ fun v w next hsame => ?_
    exact congrArg (fun isNull => Except.ok (next.push isNull)) hsame.isNull
  | comparison c =>
    refine nextTwo_bind_congr h m _ fun v v' w w' next hleft hright => ?_
    exact congrArg next.judge ((hleft.onLeft _ w).trans (hright.onRight _ v'))
  | quantified q c =>
    refine nextTwo_bind_congr h m _ fun v v' w w' next hleft hright => ?_
    exact congrArg next.judge ((hleft.quantified q _ w).trans (hright.underQuantifier q _ v'))
  | incomplete q => rfl

theorem run_congr (instructions : List Instruction) (m : Machine settings) :
    instructions.foldlM (step settings operands source) m =
      instructions.foldlM (step settings operands' source') m := by
  induction instructions generalizing m with
  | nil => rfl
  | cons instruction rest ih =>
    rw [List.foldlM_cons, List.foldlM_cons, step_congr h]
    congr 1
    funext next
    exact ih next

end Congruence

end Machine

/-- Programs with the same operations whose operands resolve to values that are not told apart come
to the same. -/
theorem evaluate_of_interchangeable {program program' : Program} {source : σ} {source' : τ}
    (hops : program.operations = program'.operations)
    (h : List.Forall₂ (Value.Interchangeable settings)
      (program.operands.map (Value.resolve source))
      (program'.operands.map (Value.resolve source'))) :
    evaluate settings program source = evaluate settings program' source' := by
  unfold evaluate
  have hlimit : program.checkLimit settings = program'.checkLimit settings := by
    unfold Program.checkLimit
    rw [hops]
  rw [hlimit, hops]
  simp only [Machine.run_congr h]

/-- Programs with the same operations whose operands resolve alike come to the same. -/
theorem evaluate_congr {program program' : Program} {source : σ} {source' : τ}
    (hops : program.operations = program'.operations)
    (h : program.operands.map (Value.resolve source) =
      program'.operands.map (Value.resolve source')) :
    evaluate settings program source = evaluate settings program' source' := by
  refine evaluate_of_interchangeable hops ?_
  rw [h]
  exact List.forall₂_same.2 fun v _ => .refl settings v

/-- A program tells two sources apart only by what its operands resolve to. -/
theorem evaluate_eq_of_resolve_eq {program : Program} {source : σ} {source' : τ}
    (h : ∀ operand ∈ program.operands, operand.resolve source = operand.resolve source') :
    evaluate settings program source = evaluate settings program source' :=
  evaluate_congr rfl (List.map_congr_left h)

end Run

/-! ## Values in place of references -/

/-- A value that is no reference resolves to itself. -/
theorem Value.resolve_of_literal {σ : Type} [PropertySource σ] {v : Value}
    (h : ∀ ref, v ≠ .property ref) (source : σ) : v.resolve source = v := by
  cases v with
  | property ref => exact absurd rfl (h ref)
  | _ => rfl

/-- Resolving is substituting ahead of the evaluation: unless a reference leads to a reference, the
program with the values of one source in place comes to the same on every source as the program
itself on that one. And two sources against which the operands resolve to the same values, whatever
they are, come to the same. -/
theorem evaluate_substitute {σ τ : Type} [PropertySource σ] [PropertySource τ]
    (settings : Settings) (program : Program) (source : σ) :
    ((∀ operand ∈ program.operands, ∀ ref, operand.resolve source ≠ .property ref) →
      ∀ other : τ, evaluate settings (program.substitute source) other =
        evaluate settings program source) ∧
    ∀ other : τ,
      (∀ operand ∈ program.operands, operand.resolve other = operand.resolve source) →
        evaluate settings program other = evaluate settings program source := by
  refine ⟨fun h other => evaluate_congr rfl ?_, fun other h => evaluate_eq_of_resolve_eq h⟩
  unfold Program.substitute
  rw [List.map_map]
  exact List.map_congr_left fun operand hmem => Value.resolve_of_literal (h operand hmem) other

/-- The size of the second disk, once it stands in the program, needs no disks. -/
theorem evaluate_substitute_disks :
    let disk (size : Int64) : Instance := ⟨"Disk", [("Size", .value (.integer size))]⟩
    let source : Instance := ⟨"Host", [("Disks", .embeddedArray [disk 1, disk 7])]⟩
    let program : Program :=
      ⟨[.property ⟨"disks", some 1, [.property (.ofName "SIZE")]⟩, .integer 5], [.compare .gt], []⟩
    (∀ operand ∈ program.operands, ∀ ref, operand.resolve source ≠ .property ref) ∧
      program.substitute source = ⟨[.integer 7, .integer 5], [.compare .gt], []⟩ ∧
      evaluate .default (program.substitute source) Record.empty =
        evaluate .default program source := by
  intro disk source program
  have hliteral : ∀ operand ∈ program.operands, ∀ ref, operand.resolve source ≠ .property ref := by
    refine List.forall_mem_cons.2 ⟨fun ref h => ?_, List.forall_mem_singleton.2 nofun⟩
    cases (show Value.integer 7 = .property ref from h)
  exact ⟨hliteral, rfl, (evaluate_substitute .default program source).1 hliteral Record.empty⟩

end InstanceFilter
