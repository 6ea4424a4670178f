/-
Missing data. A reference misses when a link on the way leads to no object or the last link gives no
value; the relations below list the ways in which that can happen, and a reference resolves to Null
exactly when it misses or a Null is stored where it leads. Such an operand ends no evaluation in an
error: on the left of a comparison only NE holds of it, no quantifier does, and a null test does,
before anything is asked of the right-hand side.

What a reference leads to is said of the slots of a source, what stands under each name, so that the
same relations serve instances and records. The induction is over the chain of links.
-/
import InstanceFilter.Proofs.Evaluation.Formula
import InstanceFilter.Source.Instance

namespace InstanceFilter

/-- What stands under a name of a record. -/
def Record.find? (record : Record) (name : String) : Option Property :=
  (record.get? name).map .value

namespace Property

/-! ## What a link finds -/

/-- Why the last link of a reference gives no value, from what stands under its name, if anything,
and from its index. -/
inductive NoValue : Option Property → Option UInt64 → Prop
  | unknown (index : Option UInt64) : NoValue none index
  | embedded (object : Instance) (index : Option UInt64) : NoValue (some (.embedded object)) index
  | embeddedArray (objects : List Instance) (index : Option UInt64) :
      NoValue (some (.embeddedArray objects)) index
  | indexedScalar {v : Value} (index : UInt64) :
      v.isArray = false → NoValue (some (.value v)) (some index)
  | pastEnd {items : ArrayValue} {index : UInt64} :
      items.size ≤ index.toNat → NoValue (some (.value (.array items))) (some index)

/-- The value that the last link of a reference gives. -/
inductive Gives : Option Property → Option UInt64 → Value → Prop
  | whole (v : Value) : Gives (some (.value v)) none v
  | element {items : ArrayValue} {index : UInt64} {v : Value} :
      items.get? index.toNat = some v → Gives (some (.value (.array items))) (some index) v

/-- Why a link on the way leads to no object. -/
inductive NoObject : Option Property → Option UInt64 → Prop
  | unknown (index : Option UInt64) : NoObject none index
  | value (v : Value) (index : Option UInt64) : NoObject (some (.value v)) index
  | indexedObject (object : Instance) (index : UInt64) :
      NoObject (some (.embedded object)) (some index)
  | unindexedArray (objects : List Instance) : NoObject (some (.embeddedArray objects)) none
  | pastEnd {objects : List Instance} {index : UInt64} :
      objects.length ≤ index.toNat → NoObject (some (.embeddedArray objects)) (some index)

/-- The object that a link on the way leads to. -/
inductive Leads : Option Property → Option UInt64 → Instance → Prop
  | object (object : Instance) : Leads (some (.embedded object)) none object
  | element {objects : List Instance} {index : UInt64} {object : Instance} :
      objects[index.toNat]? = some object → Leads (some (.embeddedArray objects)) (some index) object

/-- The value of a plain property. -/
def value? : Property → Option Value
  | .value v => some v
  | .embedded _ | .embeddedArray _ => none

end Property

/-! ## What a reference finds -/

open Property

/-- A reference misses in slots, by the link it starts with and the chain after that: the last link
gives no value, or one before it leads to no object or is followed by something that is no link. -/
inductive Misses : (String → Option Property) → PropertyRef → List Value → Prop
  | last {slots : String → Option Property} {head : PropertyRef} :
      NoValue (slots head.name) head.index → Misses slots head []
  | blocked {slots : String → Option Property} {head : PropertyRef} {link : Value}
      {rest : List Value} : NoObject (slots head.name) head.index → Misses slots head (link :: rest)
  | notProperty {slots : String → Option Property} {head : PropertyRef} {link : Value}
      {rest : List Value} : link.property? = none → Misses slots head (link :: rest)
  | further {slots : String → Option Property} {head next : PropertyRef} {object : Instance}
      {rest : List Value} : Leads (slots head.name) head.index object →
        Misses object.find? next rest → Misses slots head (.property next :: rest)

/-- A reference reads a value in slots. -/
inductive Reads : (String → Option Property) → PropertyRef → List Value → Value → Prop
  | last {slots : String → Option Property} {head : PropertyRef} {v : Value} :
      Gives (slots head.name) head.index v → Reads slots head [] v
  | further {slots : String → Option Property} {head next : PropertyRef} {object : Instance}
      {rest : List Value} {v : Value} : Leads (slots head.name) head.index object →
        Reads object.find? next rest v → Reads slots head (.property next :: rest) v

/-- A reference leads to no value, or to a stored Null. -/
def Missing (slots : String → Option Property) (ref : PropertyRef) : Prop :=
  Misses slots ref ref.chain ∨ Reads slots ref ref.chain .null

theorem misses_nil_iff {slots : String → Option Property} {head : PropertyRef} :
    Misses slots head [] ↔ NoValue (slots head.name) head.index := by
  refine ⟨fun hmiss => ?_, .last⟩
  cases hmiss with
  | last hno => exact hno

theorem reads_nil_iff {slots : String → Option Property} {head : PropertyRef} {v : Value} :
    Reads slots head [] v ↔ Gives (slots head.name) head.index v := by
  refine ⟨fun hreads => ?_, .last⟩
  cases hreads with
  | last hgives => exact hgives

/-! ## The last link -/

section Last

variable {σ : Type} [PropertySource σ] {source : σ} {name : String} {slot : Option Property}
  {index : Option UInt64}

theorem toOption_element (v : Value) (index : Nat) :
    (v.element index).toOption = match v with
      | .array items => items.get? index
      | _ => none := by
  cases v with
  | array items => cases hi : items.get? index <;> simp [Value.element, Except.toOption, hi]
  | _ => rfl

theorem lookUp_eq_none_iff (h : PropertySource.value? source name = slot.bind value?) :
    lookUp source name index = none ↔ NoValue slot index := by
  unfold lookUp
  rw [h]
  match slot, index with
  | none, index => exact ⟨fun _ => .unknown index, fun _ => rfl⟩
  | some (.embedded object), index => exact ⟨fun _ => .embedded object index, fun _ => rfl⟩
  | some (.embeddedArray objects), index =>
    exact ⟨fun _ => .embeddedArray objects index, fun _ => rfl⟩
  | some (.value v), none => exact ⟨nofun, nofun⟩
  | some (.value v), some index =>
    show (v.element index.toNat).toOption = none ↔ _
    rw [toOption_element]
    cases v with
    | array items =>
      have hpast : items.get? index.toNat = none ↔ items.size ≤ index.toNat := by
        rw [ArrayValue.get?, List.getElem?_eq_none_iff, ArrayValue.length_elements]
      refine ⟨fun hnone => .pastEnd (hpast.1 hnone), fun hno => ?_⟩
      cases hno with
      | indexedScalar _ hscalar => cases hscalar
      | pastEnd hle => exact hpast.2 hle
    | _ => exact ⟨fun _ => .indexedScalar index rfl, fun _ => rfl⟩

theorem lookUp_eq_some_iff (h : PropertySource.value? source name = slot.bind value?) {v : Value} :
    lookUp source name index = some v ↔ Gives slot index v := by
  unfold lookUp
  rw [h]
  match slot, index with
  | none, index => exact ⟨nofun, nofun⟩
  | some (.embedded object), index => exact ⟨nofun, nofun⟩
  | some (.embeddedArray objects), index => exact ⟨nofun, nofun⟩
  | some (.value w), none =>
    constructor
    · intro hsome
      cases hsome
      exact .whole v
    · intro hgives
      cases hgives
      rfl
  | some (.value w), some index =>
    show (w.element index.toNat).toOption = some v ↔ _
    rw [toOption_element]
    cases w with
    | array items =>
      refine ⟨.element, fun hgives => ?_⟩
      cases hgives with
      | element hsome => exact hsome
    | _ => exact ⟨nofun, nofun⟩

end Last

/-! ## References in instances and records -/

theorem Instance.value?_eq (object : Instance) (name : String) :
    PropertySource.value? object name = (object.find? name).bind Property.value? := by
  show Instance.value? object name = _
  unfold Instance.value?
  cases object.find? name with
  | none => rfl
  | some property => cases property <;> rfl

theorem Record.value?_eq (record : Record) (name : String) :
    PropertySource.value? record name = (record.find? name).bind Property.value? := by
  show Record.get? record name = _
  unfold Record.find?
  cases record.get? name <;> rfl

theorem follow_eq_none_iff {object : Instance} {link : PropertyRef} :
    follow object link = none ↔ NoObject (object.find? link.name) link.index := by
  show object.embedded? link.name (link.index.map (·.toNat)) = none ↔ _
  unfold Instance.embedded?
  match object.find? link.name, link.index with
  | none, index => exact ⟨fun _ => .unknown index, fun _ => rfl⟩
  | some (.value v), index => exact ⟨fun _ => .value v index, fun _ => rfl⟩
  | some (.embedded inner), none => exact ⟨nofun, nofun⟩
  | some (.embedded inner), some index => exact ⟨fun _ => .indexedObject inner index, fun _ => rfl⟩
  | some (.embeddedArray objects), none => exact ⟨fun _ => .unindexedArray objects, fun _ => rfl⟩
  | some (.embeddedArray objects), some index =>
    refine ⟨fun hnone => .pastEnd (List.getElem?_eq_none_iff.1 hnone), fun hno => ?_⟩
    cases hno with
    | pastEnd hle => exact List.getElem?_eq_none hle

theorem follow_eq_some_iff {object inner : Instance} {link : PropertyRef} :
    follow object link = some inner ↔ Leads (object.find? link.name) link.index inner := by
  show object.embedded? link.name (link.index.map (·.toNat)) = some inner ↔ _
  unfold Instance.embedded?
  match object.find? link.name, link.index with
  | none, index => exact ⟨nofun, nofun⟩
  | some (.value v), index => exact ⟨nofun, nofun⟩
  | some (.embedded inner'), none =>
    constructor
    · intro hsome
      cases hsome
      exact .object inner
    · intro hleads
      cases hleads
      rfl
  | some (.embedded inner'), some index => exact ⟨nofun, nofun⟩
  | some (.embeddedArray objects), none => exact ⟨nofun, nofun⟩
  | some (.embeddedArray objects), some index =>
    refine ⟨.element, fun hleads => ?_⟩
    cases hleads with
    | element hsome => exact hsome

/-- What walking on from a link comes to: nothing, unless the link leads to an object and the next
one is a reference, and then what walking on from there does. -/
theorem walk_cons {object : Instance} {head : PropertyRef} {link : Value} {rest : List Value}
    {r : Option Value} :
    walk object head (link :: rest) = r ↔
      (follow object head = none ∧ r = none) ∨ (link.property? = none ∧ r = none) ∨
        ∃ inner next, follow object head = some inner ∧ link = .property next ∧
          walk inner next rest = r := by
  rw [walk]
  cases hf : follow object head with
  | none => simp [eq_comm]
  | some inner => cases link <;> simp [Value.property?, eq_comm]

theorem walk_eq_none_iff {object : Instance} {head : PropertyRef} {chain : List Value} :
    walk object head chain = none ↔ Misses object.find? head chain := by
  induction chain generalizing object head with
  | nil =>
    rw [walk, misses_nil_iff]
    exact lookUp_eq_none_iff (object.value?_eq head.name)
  | cons link rest ih =>
    rw [walk_cons]
    constructor
    · rintro (⟨hf, -⟩ | ⟨hlink, -⟩ | ⟨inner, next, hf, rfl, hw⟩)
      · exact .blocked (follow_eq_none_iff.1 hf)
      · exact .notProperty hlink
      · exact .further (follow_eq_some_iff.1 hf) (ih.1 hw)
    · intro hmiss
      cases hmiss with
      | blocked hno => exact .inl ⟨follow_eq_none_iff.2 hno, rfl⟩
      | notProperty hlink => exact .inr (.inl ⟨hlink, rfl⟩)
      | further hleads hmiss =>
        exact .inr (.inr ⟨_, _, follow_eq_some_iff.2 hleads, rfl, ih.2 hmiss⟩)

theorem walk_eq_some_iff {object : Instance} {head : PropertyRef} {chain : List Value} {v : Value} :
    walk object head chain = some v ↔ Reads object.find? head chain v := by
  induction chain generalizing object head with
  | nil =>
    rw [walk, reads_nil_iff]
    exact lookUp_eq_some_iff (object.value?_eq head.name)
  | cons link rest ih =>
    rw [walk_cons]
    constructor
    · rintro (⟨-, hv⟩ | ⟨-, hv⟩ | ⟨inner, next, hf, rfl, hw⟩)
      · cases hv
      · cases hv
      · exact .further (follow_eq_some_iff.1 hf) (ih.1 hw)
    · intro hreads
      cases hreads with
      | further hleads hreads =>
        exact .inr (.inr ⟨_, _, follow_eq_some_iff.2 hleads, rfl, ih.2 hreads⟩)

/-- Nothing is embedded in a record. -/
theorem Record.noObject_find? (record : Record) (name : String) (index : Option UInt64) :
    NoObject (record.find? name) index := by
  unfold Record.find?
  cases record.get? name with
  | none => exact .unknown index
  | some v => exact .value v index

theorem Record.not_leads_find? (record : Record) {name : String} {index : Option UInt64}
    {object : Instance} : ¬ Leads (record.find? name) index object := by
  unfold Record.find?
  cases record.get? name with
  | none => exact nofun
  | some v => exact nofun

theorem Record.walk_eq_none_iff {record : Record} {head : PropertyRef} {chain : List Value} :
    walk record head chain = none ↔ Misses record.find? head chain := by
  cases chain with
  | nil =>
    rw [walk, misses_nil_iff]
    exact lookUp_eq_none_iff (record.value?_eq head.name)
  | cons link rest => exact ⟨fun _ => .blocked (record.noObject_find? _ _), fun _ => rfl⟩

theorem Record.walk_eq_some_iff {record : Record} {head : PropertyRef} {chain : List Value}
    {v : Value} : walk record head chain = some v ↔ Reads record.find? head chain v := by
  cases chain with
  | nil =>
    rw [walk, reads_nil_iff]
    exact lookUp_eq_some_iff (record.value?_eq head.name)
  | cons link rest =>
    refine ⟨nofun, fun hreads => ?_⟩
    cases hreads with
    | further hleads _ => exact absurd hleads record.not_leads_find?

/-- A reference resolves to Null against an instance exactly when it is missing there. -/
theorem Instance.resolve_eq_null_iff (object : Instance) (ref : PropertyRef) :
    (Value.property ref).resolve object = .null ↔ Missing object.find? ref := by
  rw [Missing, ← walk_eq_none_iff, ← walk_eq_some_iff]
  show (walk object ref ref.chain).getD .null = .null ↔ _
  cases walk object ref ref.chain <;> simp

theorem Record.resolve_eq_null_iff (record : Record) (ref : PropertyRef) :
    (Value.property ref).resolve record = .null ↔ Missing record.find? ref := by
  rw [Missing, ← Record.walk_eq_none_iff, ← Record.walk_eq_some_iff]
  show (walk record ref ref.chain).getD .null = .null ↔ _
  cases walk record ref ref.chain <;> simp

/-! ## Atoms with a missing operand -/

section Atom

variable {σ : Type} [PropertySource σ] {settings : Settings} {source : σ}

/-- An atom comes to a verdict wherever it stands: as the whole of a program, whatever operands and
names that has besides, and at any place of a run, in one step that leaves the rest of the machine
as it is. -/
structure Atom.Comes (settings : Settings) (source : σ) (a : Atom) (verdict : Bool) : Prop where
  evaluated : settings.Admits a.operations.length → ∀ surplus propertyNames,
    evaluate settings ⟨a.operands ++ surplus, a.operations, propertyNames⟩ source = .ok verdict
  stepped : ∀ (before after : List Value) (m : Machine settings), m.cursor = before.length →
    m.step settings (before ++ (a.operands ++ after)) source a.instruction =
      .ok ({ m with cursor := m.cursor + a.operands.length }.push verdict)

/-- A program of one atom takes the step of the atom, and its verdict is left. -/
theorem Atom.comes_of_stepped {a : Atom} {verdict : Bool}
    (h : ∀ (before after : List Value) (m : Machine settings), m.cursor = before.length →
      m.step settings (before ++ (a.operands ++ after)) source a.instruction =
        .ok ({ m with cursor := m.cursor + a.operands.length }.push verdict)) :
    a.Comes settings source verdict where
  stepped := h
  evaluated hadmits surplus propertyNames := by
    rw [evaluate_of_admits source hadmits]
    have hinstructions : Instruction.ofOperators a.operations = [a.instruction] := by
      cases a <;> rfl
    have hstep := h [] surplus Machine.start rfl
    rw [List.nil_append] at hstep
    simp only [hinstructions, List.foldlM_cons, List.foldlM_nil, hstep]
    rfl

/-- An operand that has no value is judged so in every atom that it can stand in the left of: among
the comparisons it satisfies NE only, and no quantifier, whatever the right-hand side is. -/
structure JudgedMissing (settings : Settings) (source : σ) (operand : Value) : Prop where
  comparison : ∀ (c : Comparator) (rhs : Value),
    (Atom.comparison c operand rhs).Comes settings source (c == .ne)
  quantified : ∀ (q : Quantifier) (c : Comparator) (rhs : Value),
    (Atom.quantified q c operand rhs).Comes settings source false
  nullTest : (Atom.nullTest operand).Comes settings source true

/-- Null on the left is asked about before the right-hand side is looked at. -/
theorem judgedMissing_of_resolve {operand : Value} (h : operand.resolve source = .null) :
    JudgedMissing settings source operand where
  comparison c rhs := by
    refine Atom.comes_of_stepped fun before after m hm => ?_
    simp only [Atom.instruction, Atom.operands, Machine.step, List.cons_append, List.nil_append]
    rw [Machine.nextTwo_eq source _ rfl hm, h]
    cases c <;> rfl
  quantified q c rhs := by
    refine Atom.comes_of_stepped fun before after m hm => ?_
    simp only [Atom.instruction, Atom.operands, Machine.step, List.cons_append, List.nil_append]
    rw [Machine.nextTwo_eq source _ rfl hm, h]
    rfl
  nullTest := by
    refine Atom.comes_of_stepped fun before after m hm => ?_
    simp only [Atom.instruction, Atom.operands, Machine.step, List.cons_append, List.nil_append]
    rw [Machine.nextOperand_eq source _ rfl hm, h]
    rfl

end Atom

/-- Missing data is never an error. Whichever way a reference misses in an instance or a record, or
if it leads to a stored Null, it is judged as missing in every atom; and these are all the
references that resolve to Null. -/
theorem judged_missing (settings : Settings) (ref : PropertyRef) :
    (∀ object : Instance,
      (Missing object.find? ref → JudgedMissing settings object (.property ref)) ∧
        ((Value.property ref).resolve object = .null ↔ Missing object.find? ref)) ∧
    ∀ record : Record,
      (Missing record.find? ref → JudgedMissing settings record (.property ref)) ∧
        ((Value.property ref).resolve record = .null ↔ Missing record.find? ref) :=
  ⟨fun object => ⟨fun h => judgedMissing_of_resolve ((object.resolve_eq_null_iff ref).2 h),
      object.resolve_eq_null_iff ref⟩,
    fun record => ⟨fun h => judgedMissing_of_resolve ((record.resolve_eq_null_iff ref).2 h),
      record.resolve_eq_null_iff ref⟩⟩

/-- Past the end of the disks there is no name to compare, and the pattern is never compiled. -/
theorem judged_missing_disk :
    let host : Instance := ⟨"Host", [("Disks", .embeddedArray [.ofClass "Disk"])]⟩
    let ref : PropertyRef := ⟨"Disks", some 1, [.property (.ofName "Name")]⟩
    Missing host.find? ref ∧
      evaluate .default ⟨[.property ref, .string "("], [.compare .notLike], []⟩ host = .ok false ∧
      evaluate .default ⟨[.property ref, .string "("], [.compare .ne], []⟩ host = .ok true := by
  intro host ref
  have hpast : NoObject (host.find? "Disks") (some 1) := .pastEnd (Nat.le_refl 1)
  have hmissing : Missing host.find? ref := .inl (.blocked hpast)
  have hjudged := ((judged_missing .default ref).1 host).1 hmissing
  exact ⟨hmissing, (hjudged.comparison .notLike (.string "(")).evaluated nofun [] [],
    (hjudged.comparison .ne (.string "(")).evaluated nofun [] []⟩

end InstanceFilter
