/-
The trace as a log of the machine. From its records alone one can tell where the machine stood: the
operands are recorded in their order, the results that no later connective has consumed are the
stack, and a run without a verdict is one whose last record says why. What a trace shows beside the
values, positions, operators and depths, is a matter of the program: on any two sources one such
outline begins the other.

The stack is rebuilt from the executions that are recorded, and one step of the machine is recorded
as one execution more. Both parts are inductions over the instructions, from any machine that the
records before it account for.
-/
import InstanceFilter.Evaluation.Trace
import InstanceFilter.Proofs.Evaluation.Shape

namespace InstanceFilter

/-! ## Reading records -/

/-- An executed instruction as it is recorded. -/
structure Execution where
  op : Operator
  result : Bool
  depth : Nat

/-- What a record shows of the program alone. -/
inductive Mark where
  | operand (position : Nat)
  | instruction (op : Operator) (depth : Nat)
  deriving DecidableEq

namespace Event

def position? : Event → Option Nat
  | .resolved position _ => some position
  | _ => none

def execution? : Event → Option Execution
  | .executed op result depth => some ⟨op, result, depth⟩
  | _ => none

def mark? : Event → Option Mark
  | .resolved position _ => some (.operand position)
  | .executed op _ depth => some (.instruction op depth)
  | _ => none

/-- The positions of the operands that are recorded as resolved. -/
def positions (events : List Event) : List Nat := events.filterMap position?

def executions (events : List Event) : List Execution := events.filterMap execution?

/-- The positions, operators and depths that are recorded. -/
def outline (events : List Event) : List Mark := events.filterMap mark?

end Event

namespace Operator

/-- Comparisons, quantifiers and the null test bring a result of their own. -/
def isTest : Operator → Bool
  | .compare _ | .quantify _ | .isNull => true
  | .and | .or | .not => false

/-- The connectives that make one result of two. -/
def isJoin : Operator → Bool
  | .and | .or => true
  | .not | .compare _ | .quantify _ | .isNull => false

/-- How many results an operator consumes. -/
def consumed : Operator → Nat
  | .and | .or => 2
  | .not => 1
  | .compare _ | .quantify _ | .isNull => 0

/-- A connective has the result that it makes of the pending ones, the last one first; of two, the
later is on the right. A test may have any. -/
def Justifies (op : Operator) (pending : List Bool) (result : Bool) : Prop :=
  match op with
  | .and => ∃ lhs rhs rest, pending = rhs :: lhs :: rest ∧ result = (lhs && rhs)
  | .or => ∃ lhs rhs rest, pending = rhs :: lhs :: rest ∧ result = (lhs || rhs)
  | .not => ∃ value rest, pending = value :: rest ∧ result = !value
  | .compare _ | .quantify _ | .isNull => True

theorem Justifies.consumed_le {op : Operator} {pending : List Bool} {result : Bool}
    (h : op.Justifies pending result) : op.consumed ≤ pending.length := by
  cases op with
  | and | or =>
    obtain ⟨lhs, rhs, rest, rfl, -⟩ := h
    exact Nat.le_add_left 2 rest.length
  | not =>
    obtain ⟨value, rest, rfl, -⟩ := h
    exact Nat.le_add_left 1 rest.length
  | compare | quantify | isNull => exact Nat.zero_le _

/-- An operator consumes as many results as it has to for one of its own to be left. -/
theorem consumed_add_isTest (op : Operator) : op.consumed + op.isTest.toNat = op.isJoin.toNat + 1 := by
  cases op <;> rfl

end Operator

namespace Execution

/-- The results that no later execution has consumed, the last one first. -/
def pending (executions : List Execution) : List Bool :=
  executions.foldl (fun pending e => e.result :: pending.drop e.op.consumed) []

theorem pending_append_singleton (executions : List Execution) (e : Execution) :
    pending (executions ++ [e]) = e.result :: (pending executions).drop e.op.consumed :=
  List.foldl_concat ..

/-- The executions before it account for an execution: its depth is the number of tests less that of
joins, itself counted, and its result follows from those that are pending. -/
structure AccountedBy (before : List Execution) (e : Execution) : Prop where
  depth : (e.depth : Int) =
    (before ++ [e]).countP (·.op.isTest) - (before ++ [e]).countP (·.op.isJoin)
  result : e.op.Justifies (pending before) e.result

end Execution

/-! ## One step -/

section Steps

variable {σ : Type} [PropertySource σ] {settings : Settings} {operands : List Value} {source : σ}

namespace Machine

variable {m next : Machine settings} {op : Operator}

theorem of_judge {judgement : Judging settings Bool} (h : m.judge judgement = .ok next) :
    next.cursor = m.cursor ∧ ∃ result, next.stack = result :: m.stack := by
  obtain ⟨⟨result, patterns⟩, -, hnext⟩ := bind_eq_ok_iff.1 h
  cases hnext
  exact ⟨rfl, result, rfl⟩

theorem of_nextOperand {v : Value} (h : m.nextOperand operands source op = .ok (v, next)) :
    m.cursor < operands.length ∧ next.cursor = m.cursor + 1 ∧ next.stack = m.stack := by
  unfold nextOperand at h
  split at h
  · next hget =>
    cases h
    exact ⟨(List.getElem?_eq_some_iff.1 hget).1, rfl, rfl⟩
  · cases h

theorem of_nextTwo {v w : Value} (h : m.nextTwo operands source op = .ok (v, w, next)) :
    m.cursor + 1 < operands.length ∧ next.cursor = m.cursor + 2 ∧ next.stack = m.stack := by
  obtain ⟨⟨v', m'⟩, hv, h⟩ := bind_eq_ok_iff.1 h
  obtain ⟨⟨w', m''⟩, hw, h⟩ := bind_eq_ok_iff.1 h
  cases h
  obtain ⟨-, hcursor, hstack⟩ := of_nextOperand hv
  obtain ⟨hlt, hcursor', hstack'⟩ := of_nextOperand hw
  rw [hcursor] at hlt hcursor'
  exact ⟨hlt, hcursor', hstack'.trans hstack⟩

/-- An instruction that takes two operands and judges them. -/
theorem of_nextTwo_judge {judgement : Value → Value → Judging settings Bool}
    (h : (do
      let (lhs, rhs, m) ← m.nextTwo operands source op
      m.judge (judgement lhs rhs)) = .ok next) :
    2 ≤ operands.length - m.cursor ∧ next.cursor = m.cursor + 2 ∧
      ∃ result, next.stack = result :: m.stack := by
  obtain ⟨⟨lhs, rhs, m'⟩, hoperands, hjudge⟩ := bind_eq_ok_iff.1 h
  obtain ⟨hlt, hcursor, hstack⟩ := of_nextTwo hoperands
  obtain ⟨hcursor', result, hstack'⟩ := of_judge hjudge
  exact ⟨by omega, hcursor'.trans hcursor, result, hstack'.trans (congrArg _ hstack)⟩

/-- A step takes the operands of its instruction and puts one result in place of those that it
consumes. -/
theorem of_step {instruction : Instruction}
    (h : m.step settings operands source instruction = .ok next) :
    (instruction.arity ≤ operands.length - m.cursor ∧
      next.cursor = m.cursor + instruction.arity) ∧
    ∃ result, next.stack = result :: m.stack.drop instruction.operator.consumed ∧
      instruction.operator.Justifies m.stack result := by
  cases instruction with
  | conjunction =>
    obtain ⟨_ | ⟨rhs, _ | ⟨lhs, rest⟩⟩, cursor, patterns⟩ := m
    · cases h
    · cases h
    · cases h
      exact ⟨⟨Nat.zero_le _, rfl⟩, _, rfl, lhs, rhs, rest, rfl, rfl⟩
  | disjunction =>
    obtain ⟨_ | ⟨rhs, _ | ⟨lhs, rest⟩⟩, cursor, patterns⟩ := m
    · cases h
    · cases h
    · cases h
      exact ⟨⟨Nat.zero_le _, rfl⟩, _, rfl, lhs, rhs, rest, rfl, rfl⟩
  | negation =>
    obtain ⟨_ | ⟨value, rest⟩, cursor, patterns⟩ := m
    · cases h
    · cases h
      exact ⟨⟨Nat.zero_le _, rfl⟩, _, rfl, value, rest, rfl, rfl⟩
  | nullTest =>
    obtain ⟨⟨v, m'⟩, hv, h⟩ := bind_eq_ok_iff.1 h
    cases h
    obtain ⟨hlt, hcursor, hstack⟩ := of_nextOperand hv
    exact ⟨⟨Nat.sub_pos_of_lt hlt, hcursor⟩, v.isNull, congrArg _ hstack, trivial⟩
  | comparison c =>
    obtain ⟨hle, hcursor, result, hstack⟩ := of_nextTwo_judge h
    exact ⟨⟨hle, hcursor⟩, result, hstack, trivial⟩
  | quantified q c =>
    obtain ⟨hle, hcursor, result, hstack⟩ := of_nextTwo_judge h
    exact ⟨⟨hle, hcursor⟩, result, hstack, trivial⟩
  | incomplete q => cases h

/-- The execution that a step is recorded as, by the machine that it leads to. -/
def recorded (next : Machine settings) (instruction : Instruction) : Execution :=
  ⟨instruction.operator, next.stack.headD false, next.stack.length⟩

/-- The executions recorded so far account for the stack of a machine. -/
structure LoggedBy (m : Machine settings) (done : List Execution) : Prop where
  pending : Execution.pending done = m.stack
  depth : done.countP (·.op.isTest) = done.countP (·.op.isJoin) + m.stack.length

theorem loggedBy_start : (start : Machine settings).LoggedBy [] := ⟨rfl, rfl⟩

/-- A step is accounted for by the records before it, and its own accounts for the machine that it
leads to. -/
theorem LoggedBy.step {done : List Execution} {instruction : Instruction} (hm : m.LoggedBy done)
    (h : m.step settings operands source instruction = .ok next) :
    (next.recorded instruction).AccountedBy done ∧
      next.LoggedBy (done ++ [next.recorded instruction]) := by
  obtain ⟨-, result, hstack, hjustified⟩ := of_step h
  have hrecorded : next.recorded instruction =
      ⟨instruction.operator, result, next.stack.length⟩ := by
    rw [recorded, hstack]
    rfl
  have hlength : next.stack.length + instruction.operator.consumed = m.stack.length + 1 := by
    have := hjustified.consumed_le
    rw [hstack, List.length_cons, List.length_drop]
    omega
  have hbalance := instruction.operator.consumed_add_isTest
  have hdepth := hm.depth
  have hcounts (p : Operator → Bool) :
      (done ++ [next.recorded instruction]).countP (fun e => p e.op) =
        done.countP (fun e => p e.op) + (p instruction.operator).toNat := by
    rw [List.countP_append, List.countP_singleton, hrecorded]
    cases p instruction.operator <;> rfl
  refine ⟨⟨?_, ?_⟩, ?_, ?_⟩
  · rw [hcounts, hcounts, hrecorded]
    simp only
    omega
  · rw [hm.pending, hrecorded]
    exact hjustified
  · rw [Execution.pending_append_singleton, hm.pending, hrecorded]
    exact hstack.symm
  · rw [hcounts, hcounts]
    omega

end Machine

/-! ## The records of a run -/

namespace Event

/-- The operands of an instruction are recorded from the cursor on, as far as there are any. -/
theorem filterMap_ofOperands {α : Type} {f : Event → Option α} {g : Nat → Option α}
    (hunresolved : ∀ ref, f (.unresolved ref) = none)
    (hresolved : ∀ position v, f (.resolved position v) = g position) (position count : Nat) :
    (ofOperands operands source position count).filterMap f =
      (List.range' position (min count (operands.length - position))).filterMap g := by
  have hoperand (position : Nat) (operand : Value) :
      (ofOperand source position operand).filterMap f = (g position).toList := by
    have hlast : List.filterMap f [.resolved position (operand.resolve source)] =
        (g position).toList := by
      rw [List.filterMap_cons, hresolved]
      cases g position <;> rfl
    unfold ofOperand
    split
    · split
      · rw [List.filterMap_append, List.filterMap_cons_none (hunresolved _), hlast]
        rfl
      · exact hlast
    · exact hlast
  rw [← List.length_drop, ← List.length_take, ofOperands]
  generalize (operands.drop position).take count = taken
  induction taken generalizing position with
  | nil => rfl
  | cons operand taken ih =>
    have hnext : (fun i => ofOperand source (position + (i + 1))) =
        fun i => ofOperand source (position + 1 + i) := by
      funext i
      rw [Nat.add_assoc, Nat.add_comm 1 i]
    rw [List.mapIdx_cons, List.flatten_cons, List.filterMap_append, hoperand, hnext, ih,
      List.length_cons, List.range'_succ, List.filterMap_cons]
    cases g position <;> rfl

theorem positions_ofOperands (position count : Nat) :
    positions (ofOperands operands source position count) =
      List.range' position (min count (operands.length - position)) :=
  (filterMap_ofOperands (fun _ => rfl) (fun _ _ => rfl) position count).trans List.filterMap_some

theorem outline_ofOperands (position count : Nat) :
    outline (ofOperands operands source position count) =
      (List.range' position (min count (operands.length - position))).map .operand :=
  (filterMap_ofOperands (fun _ => rfl) (fun _ _ => rfl) position count).trans
    (congrFun List.filterMap_eq_map' _)

theorem executions_ofOperands (position count : Nat) :
    executions (ofOperands operands source position count) = [] :=
  (filterMap_ofOperands (g := fun _ => none) (fun _ => rfl) (fun _ _ => rfl) position count).trans
    (List.filterMap_eq_nil_iff.2 fun _ _ => rfl)

theorem error_notMem_ofOperands (position count : Nat) (e : EvalError) :
    .aborted e ∉ ofOperands operands source position count := by
  intro h
  obtain ⟨records, hmem, h⟩ := List.mem_flatten.1 h
  obtain ⟨i, hi, rfl⟩ := List.mem_mapIdx.1 hmem
  unfold ofOperand at h
  grind

variable {m next : Machine settings} {instruction : Instruction} {rest : List Instruction}

theorem executions_ofRun_nil : executions (ofRun settings operands source m []) = [] := by
  rw [ofRun]
  split <;> rfl

theorem ofRun_cons_of_ok (h : m.step settings operands source instruction = .ok next) :
    ofRun settings operands source m (instruction :: rest) =
      ofOperands operands source m.cursor instruction.arity ++
        .executed instruction.operator (next.stack.headD false) next.stack.length ::
          ofRun settings operands source next rest := by
  rw [ofRun, h]

theorem ofRun_cons_of_error {e : EvalError}
    (h : m.step settings operands source instruction = .error e) :
    ofRun settings operands source m (instruction :: rest) =
      ofOperands operands source m.cursor instruction.arity ++ [.aborted e] := by
  rw [ofRun, h]

theorem executions_ofRun_of_ok (h : m.step settings operands source instruction = .ok next) :
    executions (ofRun settings operands source m (instruction :: rest)) =
      next.recorded instruction :: executions (ofRun settings operands source next rest) := by
  rw [ofRun_cons_of_ok h, executions, List.filterMap_append]
  exact congrArg (· ++ _) (executions_ofOperands _ _)

theorem executions_ofRun_of_error {e : EvalError}
    (h : m.step settings operands source instruction = .error e) :
    executions (ofRun settings operands source m (instruction :: rest)) = [] := by
  rw [ofRun_cons_of_error h, executions, List.filterMap_append]
  exact congrArg (· ++ _) (executions_ofOperands _ _)

/-- Every execution in a run is accounted for by those before it. -/
theorem accountedBy_of_run {instructions : List Instruction} {done before after : List Execution}
    {e : Execution} (hm : m.LoggedBy done)
    (h : executions (ofRun settings operands source m instructions) = before ++ e :: after) :
    e.AccountedBy (done ++ before) := by
  induction instructions generalizing m done before with
  | nil =>
    rw [executions_ofRun_nil] at h
    exact absurd h.symm (List.append_ne_nil_of_right_ne_nil _ (List.cons_ne_nil _ _))
  | cons instruction rest ih =>
    cases hstep : m.step settings operands source instruction with
    | error cause =>
      rw [executions_ofRun_of_error hstep] at h
      exact absurd h.symm (List.append_ne_nil_of_right_ne_nil _ (List.cons_ne_nil _ _))
    | ok next =>
      obtain ⟨haccounted, hnext⟩ := hm.step hstep
      rw [executions_ofRun_of_ok hstep] at h
      cases before with
      | nil =>
        obtain ⟨rfl, -⟩ := List.cons.inj h
        rwa [List.append_nil]
      | cons first before =>
        obtain ⟨rfl, htail⟩ := List.cons.inj h
        have := ih hnext htail
        rwa [List.append_assoc] at this

/-- The executions of a run that goes through account for the machine at its end. -/
theorem loggedBy_of_run {instructions : List Instruction} {done : List Execution}
    {final : Machine settings} (hm : m.LoggedBy done)
    (h : instructions.foldlM (Machine.step settings operands source) m = .ok final) :
    final.LoggedBy (done ++ executions (ofRun settings operands source m instructions)) := by
  induction instructions generalizing m done with
  | nil =>
    cases h
    rwa [executions_ofRun_nil, List.append_nil]
  | cons instruction rest ih =>
    rw [List.foldlM_cons] at h
    obtain ⟨next, hstep, hrest⟩ := bind_eq_ok_iff.1 h
    have := ih (hm.step hstep).2 hrest
    rwa [executions_ofRun_of_ok hstep, List.append_cons]

/-- A run records operands one after the other, from where the cursor stands. -/
theorem exists_positions_ofRun (m : Machine settings) (instructions : List Instruction) :
    ∃ count, positions (ofRun settings operands source m instructions) =
      List.range' m.cursor count := by
  induction instructions generalizing m with
  | nil =>
    refine ⟨0, ?_⟩
    rw [ofRun]
    split <;> rfl
  | cons instruction rest ih =>
    cases hstep : m.step settings operands source instruction with
    | error cause =>
      refine ⟨min instruction.arity (operands.length - m.cursor), ?_⟩
      rw [ofRun_cons_of_error hstep, positions, List.filterMap_append]
      exact (List.append_nil _).trans (positions_ofOperands _ _)
    | ok next =>
      obtain ⟨⟨hle, hcursor⟩, -⟩ := Machine.of_step hstep
      obtain ⟨count, hcount⟩ := ih next
      have htaken : positions (ofOperands operands source m.cursor instruction.arity) =
          List.range' m.cursor instruction.arity := by
        rw [positions_ofOperands, Nat.min_eq_left hle]
      refine ⟨instruction.arity + count, ?_⟩
      calc positions (ofRun settings operands source m (instruction :: rest))
          = positions (ofOperands operands source m.cursor instruction.arity) ++
              positions (ofRun settings operands source next rest) := by
            rw [ofRun_cons_of_ok hstep, positions, List.filterMap_append]
            rfl
        _ = List.range' m.cursor (instruction.arity + count) := by
            rw [htaken, hcount, hcursor, List.range'_append_1]

/-- What the records end with: nothing after a verdict, else the error. -/
def ending : Except EvalError Bool → List Event
  | .ok _ => []
  | .error e => [.aborted e]

/-- The error that a run ends in is recorded once, after all else. -/
theorem exists_ofRun_eq (m : Machine settings) (instructions : List Instruction) :
    ∃ events, (∀ e, .aborted e ∉ events) ∧ ofRun settings operands source m instructions =
      events ++ ending (do
        let final ← instructions.foldlM (Machine.step settings operands source) m
        final.verdict) := by
  induction instructions generalizing m with
  | nil =>
    refine ⟨[], fun _ => List.not_mem_nil, ?_⟩
    rw [ofRun, List.foldlM_nil, pure_bind]
    cases m.verdict <;> rfl
  | cons instruction rest ih =>
    rw [List.foldlM_cons]
    cases hstep : m.step settings operands source instruction with
    | error cause =>
      exact ⟨_, error_notMem_ofOperands _ _, ofRun_cons_of_error hstep⟩
    | ok next =>
      obtain ⟨events, hevents, heq⟩ := ih next
      refine ⟨ofOperands operands source m.cursor instruction.arity ++
        .executed instruction.operator (next.stack.headD false) next.stack.length :: events,
        fun e he => ?_, ?_⟩
      · rcases List.mem_append.1 he with he | he
        · exact error_notMem_ofOperands _ _ e he
        · rcases List.mem_cons.1 he with he | he
          · cases he
          · exact hevents e he
      · rw [ofRun_cons_of_ok hstep, heq, List.append_assoc]
        rfl

end Event

/-! ## The outline of a run -/

/-- The outline that a program of `count` operands has from a shape on, as long as only its
operations can end the run. -/
def Shape.outline (count : Nat) : Shape → List Instruction → List Mark
  | _, [] => []
  | s, instruction :: rest =>
    (List.range' s.cursor (min instruction.arity (count - s.cursor))).map .operand ++
      match s.step count instruction with
      | .ok t => .instruction instruction.operator t.depth :: outline count t rest
      | .error _ => []

/-- What a run shows of the program begins the outline of its shape. -/
theorem outline_ofRun_begins (m : Machine settings) (instructions : List Instruction) :
    Event.outline (Event.ofRun settings operands source m instructions) <+:
      m.shape.outline operands.length instructions := by
  induction instructions generalizing m with
  | nil =>
    rw [Event.ofRun]
    split <;> exact List.nil_prefix
  | cons instruction rest ih =>
    have htaken : Event.outline (Event.ofOperands operands source m.cursor instruction.arity) =
        (List.range' m.shape.cursor
          (min instruction.arity (operands.length - m.shape.cursor))).map .operand :=
      Event.outline_ofOperands _ _
    rw [Shape.outline, ← htaken]
    have hkeeps := Machine.keeps_step operands source m instruction
    cases hstep : m.step settings operands source instruction with
    | error cause =>
      rw [Event.ofRun_cons_of_error hstep, Event.outline, List.filterMap_append]
      exact (List.append_nil _).symm ▸ List.prefix_append _ _
    | ok next =>
      rw [hstep] at hkeeps
      rw [Event.ofRun_cons_of_ok hstep, hkeeps.of_ok, Event.outline, List.filterMap_append]
      exact (List.prefix_append_right_inj _).2 (List.cons_prefix_cons.2 ⟨rfl, ih next⟩)

end Steps

/-! ## The trace of an evaluation -/

section Evaluations

variable {σ τ : Type} [PropertySource σ] [PropertySource τ]

/-- An evaluation that is refused at once is recorded as just that; any other runs from the start. -/
theorem trace_cases (settings : Settings) (program : Program) (source : σ) :
    (∃ e, (trace settings program source).events = [.aborted e] ∧
      evaluate settings program source = .error e) ∨
    ((trace settings program source).events = Event.ofRun settings program.operands source .start
        (Instruction.ofOperators program.operations) ∧
      evaluate settings program source = do
        let final ← (Instruction.ofOperators program.operations).foldlM
          (Machine.step settings program.operands source) .start
        final.verdict) := by
  unfold trace evaluate
  cases program.checkLimit settings with
  | error e => exact .inl ⟨e, rfl, rfl⟩
  | ok _ => exact .inr ⟨rfl, rfl⟩

/-- What the records say of the end is what the evaluation comes to. -/
theorem exists_events_trace (settings : Settings) (program : Program) (source : σ) :
    ∃ events, (∀ e, .aborted e ∉ events) ∧ (trace settings program source).events =
      events ++ Event.ending (evaluate settings program source) := by
  rcases trace_cases settings program source with ⟨e, htrace, hevaluate⟩ | ⟨htrace, hevaluate⟩
  · rw [htrace, hevaluate]
    exact ⟨[], fun _ => List.not_mem_nil, rfl⟩
  · rw [htrace, hevaluate]
    exact Event.exists_ofRun_eq _ _

theorem outline_trace_begins (settings : Settings) (program : Program) (source : σ) :
    Event.outline (trace settings program source).events <+: Shape.outline program.operands.length
      ⟨0, 0⟩ (Instruction.ofOperators program.operations) := by
  rcases trace_cases settings program source with ⟨e, htrace, -⟩ | ⟨htrace, -⟩
  · rw [htrace]
    exact List.nil_prefix
  · rw [htrace]
    exact outline_ofRun_begins (Machine.start : Machine settings) _

theorem accountedBy_of_trace {settings : Settings} {program : Program} {source : σ}
    {before after : List Execution} {e : Execution}
    (h : Event.executions (trace settings program source).events = before ++ e :: after) :
    e.AccountedBy before := by
  rcases trace_cases settings program source with ⟨cause, htrace, -⟩ | ⟨htrace, -⟩
  · rw [htrace] at h
    exact absurd h.symm (List.append_ne_nil_of_right_ne_nil _ (List.cons_ne_nil _ _))
  · rw [htrace] at h
    exact Event.accountedBy_of_run Machine.loggedBy_start h

theorem exists_positions_trace (settings : Settings) (program : Program) (source : σ) :
    ∃ count, Event.positions (trace settings program source).events = List.range count := by
  simp only [List.range_eq_range']
  rcases trace_cases settings program source with ⟨e, htrace, -⟩ | ⟨htrace, -⟩
  · rw [htrace]
    exact ⟨0, rfl⟩
  · rw [htrace]
    exact Event.exists_positions_ofRun (Machine.start : Machine settings) _

/-- The last execution before a verdict leaves that one result. -/
theorem exists_getLast?_of_evaluate {settings : Settings} {program : Program} {source : σ}
    {verdict : Bool} (h : evaluate settings program source = .ok verdict) :
    ∃ op, (Event.executions (trace settings program source).events).getLast? =
      some ⟨op, verdict, 1⟩ := by
  rcases trace_cases settings program source with ⟨e, -, hevaluate⟩ | ⟨htrace, hevaluate⟩
  · rw [hevaluate] at h
    cases h
  rw [hevaluate] at h
  obtain ⟨final, hrun, hverdict⟩ := bind_eq_ok_iff.1 h
  have hlogged := Event.loggedBy_of_run Machine.loggedBy_start hrun
  rw [List.nil_append, ← htrace] at hlogged
  have hstack : final.stack = [verdict] := by
    unfold Machine.verdict at hverdict
    split at hverdict
    · next result hresult =>
      cases hverdict
      exact hresult
    · cases hverdict
  obtain ⟨hpending, hdepth⟩ := hlogged
  rw [hstack] at hpending hdepth
  -- the stack is not empty, so something has been executed
  rcases List.eq_nil_or_concat' (Event.executions (trace settings program source).events) with
    hnil | ⟨before, e, hlast⟩
  · rw [hnil] at hpending
    cases hpending
  · have haccounted := (accountedBy_of_trace hlast).depth
    rw [hlast] at hpending hdepth ⊢
    rw [Execution.pending_append_singleton] at hpending
    obtain ⟨hresult, -⟩ := List.cons.inj hpending
    have hone : e.depth = 1 := by
      rw [List.length_singleton] at hdepth
      omega
    exact ⟨e.op, by rw [List.getLast?_concat, ← hresult, ← hone]⟩

/-- The trace of an evaluation is a log of the machine. It begins with the only span there is, and
resolved operands are recorded in their order, none left out and none twice. The depth of every
execution is the number of tests so far less that of joins, and a connective has the result that it
makes of those pending before it. There is a verdict exactly when no error is recorded, and it is
the result of the last execution, the only one left; an error is recorded last. On two sources, the
positions, operators and depths on one begin those on the other. -/
theorem trace_faithful (settings : Settings) (program : Program) (source : σ) (source' : τ) :
    let t := trace settings program source
    t.entries = .span program.operations.length :: t.events.map .event ∧
    (∃ count, Event.positions t.events = List.range count) ∧
    (∀ before e after, Event.executions t.events = before ++ e :: after → e.AccountedBy before) ∧
    ((∃ verdict, evaluate settings program source = .ok verdict) ↔ ∀ e, .aborted e ∉ t.events) ∧
    (∀ verdict, evaluate settings program source = .ok verdict →
      ∃ op, (Event.executions t.events).getLast? = some ⟨op, verdict, 1⟩) ∧
    (∀ before e after, t.events = before ++ .aborted e :: after →
      after = [] ∧ evaluate settings program source = .error e) ∧
    (Event.outline t.events <+: Event.outline (trace settings program source').events ∨
      Event.outline (trace settings program source').events <+: Event.outline t.events) := by
  obtain ⟨events, hevents, hending⟩ := exists_events_trace settings program source
  refine ⟨rfl, exists_positions_trace .., fun _ _ _ => accountedBy_of_trace, ?_,
    fun _ => exists_getLast?_of_evaluate, ?_, List.prefix_or_prefix_of_prefix
      (outline_trace_begins ..) (outline_trace_begins ..)⟩
  · rw [hending]
    cases evaluate settings program source with
    | ok verdict => exact iff_of_true ⟨verdict, rfl⟩ ((List.append_nil events).symm ▸ hevents)
    | error e => exact iff_of_false nofun fun h => h e List.mem_concat_self
  · intro before e after h
    rw [hending] at h
    cases hevaluate : evaluate settings program source with
    | ok verdict =>
      rw [hevaluate, Event.ending, List.append_nil] at h
      exact absurd (h ▸ List.mem_append_right _ List.mem_cons_self) (hevents e)
    | error cause =>
      rw [hevaluate, Event.ending] at h
      rcases List.eq_nil_or_concat' after with rfl | ⟨after, last, rfl⟩
      · obtain ⟨-, hlast⟩ := List.append_inj' h rfl
        cases hlast
        exact ⟨rfl, rfl⟩
      -- the error that is recorded last would not be the only one
      · rw [← List.cons_append, ← List.append_assoc] at h
        obtain ⟨hfirst, -⟩ := List.append_inj' h rfl
        exact absurd (hfirst ▸ List.mem_append_right _ List.mem_cons_self) (hevents e)

/-- A comparison that holds and one that is negated, joined; and a comparison that lacks its second
operand. -/
theorem trace_faithful_joined_and_short :
    let joined : Program := ⟨[.integer 1, .integer 1, .integer 2, .integer 3],
      [.compare .eq, .compare .eq, .not, .and], []⟩
    let short : Program := ⟨[.integer 1], [.compare .eq], []⟩
    let source := Instance.ofClass ""
    let before : List Execution :=
      [⟨.compare .eq, true, 1⟩, ⟨.compare .eq, false, 2⟩, ⟨.not, true, 2⟩]
    let lacking : EvalError := .malformed (.missingOperand (.compare .eq) 1 1)
    (Event.executions (trace .default joined source).events = before ++ ⟨.and, true, 1⟩ :: [] ∧
      Execution.AccountedBy before ⟨.and, true, 1⟩) ∧
    (evaluate .default joined source = .ok true ∧
      ∃ op, (Event.executions (trace .default joined source).events).getLast? =
        some ⟨op, true, 1⟩) ∧
    ((trace .default short source).events = [.resolved 0 (.integer 1)] ++ .aborted lacking :: [] ∧
      evaluate .default short source = .error lacking) := by
  intro joined short source before lacking
  obtain ⟨-, -, haccounted, -, hlast, -⟩ := trace_faithful (τ := Instance) .default joined source source
  obtain ⟨-, -, -, -, -, herror, -⟩ := trace_faithful (τ := Instance) .default short source source
  exact ⟨⟨rfl, haccounted _ _ _ rfl⟩, ⟨rfl, hlast _ rfl⟩, rfl, (herror _ _ _ rfl).2⟩

end Evaluations

end InstanceFilter
