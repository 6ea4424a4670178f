/-
Branches that no evaluation takes. A few checks are made twice: the program has classified its
operators before operands are compared, operands are aligned before a pattern is sought in them, a
quantifier has seen to it that it has an array, and a conversion is looked up before it is made.
What stands in the second place, for safety's sake, is never done.

To say so, evaluation is written out once more with those branches left open, operator by operator
and element by element, as the program goes through them. Whatever is put into the branches, all
evaluations come to the same: were one taken, its answer would be seen. The lemmas go from the
inside out, one for each function, and each hands on what it has checked to the one within.
-/
import InstanceFilter.Proofs.Evaluation.Shape
import InstanceFilter.Proofs.Evaluation.Typing

namespace InstanceFilter

/-- What stands in the branches that are there for safety's sake. -/
structure Defences (settings : Settings) where
  /-- A value may be read as one of a kind, and there is no way to do so. -/
  unread : Value → Kind → Except ValueError Value
  /-- A pattern is sought, and the operands are not two texts. -/
  noTexts : Comparator → Value → Value → Judging settings Bool
  /-- Operands are to be compared by an operator that is no comparison. -/
  noComparison : Operator → Judging settings Bool
  /-- There is no element to be had, for another reason than an index past the end. -/
  noElement : Quantifier → ValueError → Judging settings Bool
  /-- A member of a list is not of the kind that the list was found to be of. -/
  noPayload : (kind : Kind) → Value → Except ValueError kind.Payload
  /-- No array can be made of the kind that a list was found to be of. -/
  noArray : Kind → Except ValueError Value

/-- The errors that the program reports there. -/
def Defences.asWritten (settings : Settings) : Defences settings where
  unread v target := .error (.wrongType target.scalar v.type)
  noTexts c _ _ := throw (.typeMismatch (.compare c) .needsTexts)
  noComparison op := throw (.malformed (.notComparison op))
  noElement q e := throw (.typeMismatch (.quantify q) (.unreadable e))
  noPayload kind v := .error (.wrongType kind.scalar v.type)
  noArray kind := .error (.notElement kind.scalar)

section Defended

variable {settings : Settings} (defences : Defences settings)

/-! ## Evaluation with its branches open -/

/-- The value as one of the target kind, if there is a way to read it so. -/
def Value.coerceWith (v : Value) (target : Kind) : Except ValueError Value :=
  if v.kind = target then .ok v
  else if !v.canCoerce target then .error (.wrongType target.scalar v.type)
  else match v, target with
    | .string text, .dateTime => (readDateTime text).map .dateTime
    | .string text, .reference => (readReference text).map .reference
    | .array (.string items), .dateTime =>
      (items.mapM readDateTime).map fun items => .array (.dateTime items)
    | .array (.string items), .reference =>
      (items.mapM readReference).map fun items => .array (.reference items)
    | _, _ => defences.unread v target

def reconcileWith (op : Operator) (target : ValueType) (rhs : Value) : Except EvalError Value :=
  if rhs.kind = target.kind then .ok rhs
  else if !rhs.canCoerce target.kind then
    .error (.typeMismatch op (.incomparable target rhs.type))
  else (rhs.coerceWith defences target.kind).mapError fun cause =>
    .typeMismatch op (.unreadable cause)

def alignWith (op : Operator) (lhs rhs : Value) : Except EvalError Value := do
  let rhs ← reconcileWith defences op lhs.type rhs
  if lhs.isArray != rhs.isArray then .error (.typeMismatch op (.incomparable lhs.type rhs.type))
  else do
    checkOperator op lhs.type
    if lhs.formsAgree rhs then .ok rhs else .error (.typeMismatch op .mixedForms)

/-- The verdict of a comparison; a pattern is sought in two texts only. -/
def Comparator.judgeWith (c : Comparator) (lhs rhs : Value) : Judging settings Bool :=
  if c.isPattern then
    match lhs, rhs with
    | .string _, .string _ => c.judge settings lhs rhs
    | _, _ => defences.noTexts c lhs rhs
  else c.judge settings lhs rhs

def compareWith (op : Operator) (lhs rhs : Value) : Judging settings Bool :=
  if lhs.isNull then return op == .compare .ne
  else do
    let rhs ← alignWith defences op lhs rhs
    match op with
    | .compare c => c.judgeWith defences lhs rhs
    | other => defences.noComparison other

theorem lt_size_of_element {v element : Value} {index : Nat} (h : v.element index = .ok element) :
    index < v.size?.getD 0 := by
  unfold Value.element at h
  split at h
  · next items =>
    split at h
    · next hget =>
      obtain ⟨hlt, -⟩ := List.getElem?_eq_some_iff.1 hget
      rwa [ArrayValue.length_elements] at hlt
    · cases h
  · cases h

/-- Whether the verdict `sought` comes up among the elements from an index on; an index past the end
ends the search. -/
def seekFrom (q : Quantifier) (sought : Bool) (judge : Value → Judging settings Bool) (v : Value)
    (index : Nat) : Judging settings Bool :=
  match h : v.element index with
  | .ok element => do
    have := lt_size_of_element h
    if (← judge element) = sought then return true
    else seekFrom q sought judge v (index + 1)
  | .error (.indexOutOfBounds ..) => return false
  | .error e => defences.noElement q e
termination_by v.size?.getD 0 - index

def quantifyWith (q : Quantifier) (c : Operator) (lhs rhs : Value) : Judging settings Bool :=
  if lhs.isNull then return false
  else if !lhs.isArray then throw (.typeMismatch (.quantify q) (.quantifierNeedsArray lhs.type))
  else if rhs.isArray then throw (.typeMismatch (.quantify q) (.quantifiedNeedsScalar rhs.type))
  else do
    let rhs ← reconcileWith defences c lhs.kind.scalar rhs
    checkOperator c lhs.kind.scalar
    let found ← seekFrom defences q q.endsAt (fun v => compareWith defences c v rhs) lhs 0
    let holds := found == q.endsAt
    return holds != q.isNegated

variable {σ : Type} [PropertySource σ]

/-- Runs operators one after the other; whatever is no connective, null test or quantifier compares
two operands. -/
def Machine.runWith (operands : List Value) (source : σ) :
    List Operator → Machine settings → Except EvalError (Machine settings)
  | [], m => .ok m
  | .and :: rest, m => do
    let (lhs, rhs, m) ← m.popTwo .and
    runWith operands source rest (m.push (lhs && rhs))
  | .or :: rest, m => do
    let (lhs, rhs, m) ← m.popTwo .or
    runWith operands source rest (m.push (lhs || rhs))
  | .not :: rest, m => do
    let (value, m) ← m.pop .not
    runWith operands source rest (m.push (!value))
  | .isNull :: rest, m => do
    let (value, m) ← m.nextOperand operands source .isNull
    runWith operands source rest (m.push value.isNull)
  | .quantify q :: next :: rest, m =>
    if next.isComparison then do
      let (lhs, rhs, m) ← m.nextTwo operands source (.quantify q)
      let m ← m.judge (quantifyWith defences q next lhs rhs)
      runWith operands source rest m
    else .error (.malformed (.missingComparison (.quantify q)))
  | [.quantify q], _ => .error (.malformed (.missingComparison (.quantify q)))
  | op :: rest, m => do
    let (lhs, rhs, m) ← m.nextTwo operands source op
    let m ← m.judge (compareWith defences op lhs rhs)
    runWith operands source rest m

def evaluateWith (program : Program) (source : σ) : Except EvalError Bool := do
  program.checkLimit settings
  let final ← Machine.runWith defences program.operands source program.operations .start
  final.verdict

/-- The payload of a scalar of a kind. -/
def Value.asScalarWith (kind : Kind) (v : Value) : Except ValueError kind.Payload :=
  match v.payload? kind with
  | some payload => .ok payload
  | none => defences.noPayload kind v

/-- The array of scalars that are all of one kind. -/
def Value.ofScalarsWith : List Value → Except ValueError Value
  | [] => .error .emptyArray
  | first :: rest =>
    if first.isArray || !first.kind.isElement then .error (.notElement first.type)
    else match firstForeign? first.kind 1 rest with
      | some (index, v) => .error (.mixedKinds index first.kind v.kind)
      | none => do
        let items ← (first :: rest).mapM (asScalarWith defences first.kind)
        match ofPayloads first.kind items with
        | some value => .ok value
        | none => defences.noArray first.kind

/-! ## Comparisons -/

/-- Where a conversion is permitted, there is one: only texts may be read, as two kinds. -/
theorem coerceWith_eq (v : Value) (target : Kind) :
    v.coerceWith defences target = v.coerce target := by
  unfold Value.coerceWith Value.coerce
  split
  · rfl
  split
  · rfl
  · next hcan =>
    rw [Bool.not_eq_true', Bool.not_eq_false] at hcan
    obtain ⟨htarget, hstring⟩ := canCoerce_iff.1 hcan
    cases v with
    | string text => rcases htarget with rfl | rfl <;> rfl
    | array items =>
      cases items with
      | string items => rcases htarget with rfl | rfl <;> rfl
      | _ => cases hstring
    | _ => cases hstring

theorem reconcileWith_eq (op : Operator) (target : ValueType) (rhs : Value) :
    reconcileWith defences op target rhs = reconcile op target rhs := by
  unfold reconcileWith reconcile
  rw [coerceWith_eq]

theorem alignWith_eq (op : Operator) (lhs rhs : Value) :
    alignWith defences op lhs rhs = align op lhs rhs := by
  unfold alignWith align
  rw [reconcileWith_eq]

theorem exists_text_of_kind {v : Value} (hkind : v.kind = .string) (harray : v.isArray = false) :
    ∃ text, v = .string text := by
  cases v with
  | string text => exact ⟨text, rfl⟩
  | array items => cases harray
  | _ => cases hkind

/-- Operands that are aligned for a pattern are two texts. -/
theorem exists_texts_of_align {c : Comparator} {lhs rhs w : Value}
    (h : align (.compare c) lhs rhs = .ok w) (hc : c.isPattern = true) :
    ∃ text pattern, lhs = .string text ∧ w = .string pattern := by
  obtain ⟨hcoerce, harrays, hchecked, -⟩ := align_eq_ok_iff.1 h
  obtain ⟨hkind, harray⟩ := of_coerce hcoerce
  obtain ⟨hscalar, hstring⟩ := (checkOperator_type_eq_ok_iff.1 hchecked).2 hc
  have hlhs : lhs.isArray = false := hscalar
  obtain ⟨text, rfl⟩ := exists_text_of_kind hstring hlhs
  obtain ⟨pattern, rfl⟩ := exists_text_of_kind hkind (harray.trans (harrays.symm.trans hlhs))
  exact ⟨text, pattern, rfl, rfl⟩

theorem judgeWith_of_align {c : Comparator} {lhs rhs w : Value}
    (h : align (.compare c) lhs rhs = .ok w) :
    c.judgeWith defences lhs w = c.judge settings lhs w := by
  unfold Comparator.judgeWith
  split
  · next hc =>
    obtain ⟨text, pattern, rfl, rfl⟩ := exists_texts_of_align h hc
    rfl
  · rfl

/-- A comparison leaves its branches alone: what it judges is aligned. -/
theorem compareWith_eq (c : Comparator) (lhs rhs : Value) :
    compareWith defences (.compare c) lhs rhs = compareValues settings (.compare c) lhs rhs := by
  unfold compareWith compareValues
  split
  · rfl
  · rw [alignWith_eq]
    cases h : align (.compare c) lhs rhs with
    | error e => rfl
    | ok w => exact judgeWith_of_align defences h

/-- The branches are where the program has them: filled as it fills them, they make its comparison,
by whatever operator. -/
theorem compareWith_asWritten (op : Operator) (lhs rhs : Value) :
    compareWith (.asWritten settings) op lhs rhs = compareValues settings op lhs rhs := by
  cases op with
  | compare c => exact compareWith_eq _ c lhs rhs
  | _ =>
    unfold compareWith compareValues
    rw [alignWith_eq]
    rfl

/-- Asked outside an evaluation, a comparison does take its last branch. -/
example : compareWith defences .and (.integer 1) (.integer 1) = defences.noComparison .and := rfl

/-! ## Quantified comparisons -/

/-- Of an array there is an element at each index up to the end, so the search by index is that
among the elements that are left. -/
theorem seekFrom_eq (q : Quantifier) (sought : Bool) (judge : Value → Judging settings Bool)
    (items : ArrayValue) (index : Nat) :
    seekFrom defences q sought judge (.array items) index =
      seek sought judge (items.elements.drop index) := by
  have helement : (Value.array items).element index =
      match items.elements[index]? with
      | some element => .ok element
      | none => .error (.indexOutOfBounds index items.size) := rfl
  rw [seekFrom]
  by_cases hlt : index < items.elements.length
  · rw [List.getElem?_eq_getElem hlt] at helement
    have hleft : index < items.size := by rwa [ArrayValue.length_elements] at hlt
    rw [List.drop_eq_getElem_cons hlt, seek]
    split
    · next element h =>
      cases helement.symm.trans h
      congr 1
      funext verdict
      rw [seekFrom_eq q sought judge items (index + 1)]
    · next h => cases helement.symm.trans h
    · next h => cases helement.symm.trans h
  · rw [List.getElem?_eq_none (Nat.le_of_not_lt hlt)] at helement
    rw [List.drop_of_length_le (Nat.le_of_not_lt hlt)]
    split
    · next h => cases helement.symm.trans h
    · rfl
    · next e hne h =>
      cases helement.symm.trans h
      exact absurd rfl (hne _ _)
termination_by items.size - index

theorem quantifyWith_eq (q : Quantifier) (c : Comparator) (lhs rhs : Value) :
    quantifyWith defences q (.compare c) lhs rhs = quantify settings q (.compare c) lhs rhs := by
  have hcompare (w : Value) : (fun v => compareWith defences (.compare c) v w) =
      fun v => compareValues settings (.compare c) v w :=
    funext fun v => compareWith_eq defences c v w
  cases lhs with
  | array items =>
    show (if rhs.isArray then _ else _) = if rhs.isArray then _ else _
    split
    · rfl
    · simp only [reconcileWith_eq, hcompare, seekFrom_eq, List.drop_zero]
      rfl
  | _ => rfl

/-! ## Runs -/

/-- Operators that are neither connectives nor null tests nor quantifiers are comparisons, and so is
what a quantifier takes with it. -/
theorem runWith_eq (operands : List Value) (source : σ) (operations : List Operator)
    (m : Machine settings) : Machine.runWith defences operands source operations m =
      (Instruction.ofOperators operations).foldlM (Machine.step settings operands source) m := by
  fun_induction Instruction.ofOperators operations generalizing m with
  | case1 => rfl
  | case6 c rest ih =>
    simp only [Machine.runWith, List.foldlM_cons, Machine.step, Instruction.operator, bind_assoc,
      compareWith_eq, ih]
  | case7 q c rest ih =>
    simp only [Machine.runWith, List.foldlM_cons, Machine.step, Instruction.operator, bind_assoc,
      quantifyWith_eq, ih, Operator.isComparison, if_true]
  | case8 q rest hq =>
    cases rest with
    | nil => rfl
    | cons next rest =>
      cases next with
      | compare c => exact absurd rfl (hq c rest)
      | _ => rfl
  | _ =>
    rename_i ih
    simp only [Machine.runWith, List.foldlM_cons, Machine.step, Instruction.operator, bind_assoc,
      pure_bind, ih]

/-! ## Arrays from scalars -/

/-- Once a list is found to be of one kind, each member has a payload and all make an array. -/
theorem ofScalarsWith_eq (values : List Value) :
    Value.ofScalarsWith defences values = Value.ofScalars values := by
  cases values with
  | nil => rfl
  | cons first rest =>
    rw [Value.ofScalarsWith, Value.ofScalars]
    split
    · rfl
    · next hfirst =>
      rw [Bool.or_eq_true, not_or, Bool.not_eq_true, Bool.not_eq_true', Bool.not_eq_false] at hfirst
      obtain ⟨hscalar, helement⟩ := hfirst
      cases hforeign : Value.firstForeign? first.kind 1 rest with
      | some found => rfl
      | none =>
        have htype : ∀ v ∈ first :: rest, v.type = first.kind.scalar := List.forall_mem_cons.2
          ⟨Value.type_eq_scalar_iff.2 ⟨hscalar, rfl⟩, firstForeign?_eq_none_iff.1 hforeign⟩
        have hmember (v : Value) (hv : v ∈ first :: rest) :
            Value.asScalarWith defences first.kind v = Value.asScalar first.kind v := by
          obtain ⟨harray, hkind⟩ := Value.type_eq_scalar_iff.1 (htype v hv)
          rw [← hkind] at helement ⊢
          obtain ⟨payload, hpayload⟩ := exists_payload harray helement
          rw [Value.asScalarWith, Value.asScalar, hpayload]
        simp only [mapM_congr hmember]
        refine bind_congr fun items => ?_
        obtain ⟨v, hv, -⟩ := exists_ofPayloads helement items
        rw [hv]

/-- The branches that are there for safety's sake are never taken. Whatever stands in them, every
program comes to the same on every source, well formed or not, and every list of scalars makes the
same array or is refused in the same way. -/
theorem defences_idle (program : Program) (source : σ) (values : List Value) :
    evaluateWith defences program source = evaluate settings program source ∧
      Value.ofScalarsWith defences values = Value.ofScalars values := by
  constructor
  · unfold evaluateWith evaluate
    rw [runWith_eq]
  · exact ofScalarsWith_eq defences values

end Defended

end InstanceFilter
