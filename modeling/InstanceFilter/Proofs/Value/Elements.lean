/-
Arrays and their elements. Making an array of scalars and listing the elements of an array are
inverse to each other: the scalars must be there and be of one kind that arrays are made of, the
first that is not of that kind is reported, and the array made of them holds each in its place, as
a scalar and as the payload of its kind.
-/
import InstanceFilter.Value.Access
import InstanceFilter.Proofs.Fallible

namespace InstanceFilter

variable {kind : Kind} {v a first : Value} {values rest : List Value} {items : ArrayValue}

theorem Value.type_eq_scalar_iff :
    v.type = kind.scalar ↔ v.isArray = false ∧ v.kind = kind := by
  rw [Value.type, Kind.scalar, ValueType.mk.injEq, and_comm]

/-- The elements of an array are scalars of its kind. -/
theorem ArrayValue.of_mem_elements (h : v ∈ items.elements) :
    v.kind = items.kind ∧ v.isArray = false ∧ v.isNull = false := by
  cases items
  all_goals
    obtain ⟨_, -, rfl⟩ := List.mem_map.1 h
    exact ⟨rfl, rfl, rfl⟩

theorem ArrayValue.type_of_mem_elements (h : v ∈ items.elements) : v.type = items.kind.scalar := by
  obtain ⟨hkind, hscalar, -⟩ := of_mem_elements h
  exact Value.type_eq_scalar_iff.2 ⟨hscalar, hkind⟩

theorem ArrayValue.isElement_kind (items : ArrayValue) : items.kind.isElement = true := by
  cases items <;> rfl

/-! ## Payloads -/

/-- The scalar of a payload. -/
def Value.ofPayload : (kind : Kind) → kind.Payload → Value
  | .integer, n => .integer n
  | .double, x => .double x
  | .boolean, b => .boolean b
  | .string, s => .string s
  | .dateTime, d => .dateTime d
  | .reference, path => .reference path
  | .null, e => nomatch e
  | .propertyName, e => nomatch e

theorem asScalar_eq_ok_iff {payload : kind.Payload} :
    v.asScalar kind = .ok payload ↔ v = Value.ofPayload kind payload := by
  cases kind with
  | null => cases payload
  | propertyName => cases payload
  | _ => cases v <;> simp [Value.asScalar, Value.payload?, Value.ofPayload]

/-- A scalar of a kind that arrays are made of has a payload. -/
theorem exists_payload (harray : v.isArray = false) (h : v.kind.isElement = true) :
    ∃ payload, v.payload? v.kind = some payload := by
  cases v with
  | null => cases h
  | property ref => cases h
  | array items => cases harray
  | _ => exact ⟨_, rfl⟩

/-- The members of a list are read as payloads of a kind when they are the scalars of these
payloads. -/
theorem mapM_asScalar_eq_ok_iff {payloads : List kind.Payload} :
    values.mapM (Value.asScalar kind) = .ok payloads ↔
      values = payloads.map (Value.ofPayload kind) := by
  simp only [mapM_eq_ok_iff, asScalar_eq_ok_iff]
  rw [← List.forall₂_map_right_iff, List.forall₂_eq_eq_eq]

/-- Scalars of one kind that arrays are made of are read as payloads of that kind. -/
theorem exists_payloads_of_type (helement : kind.isElement = true)
    (h : ∀ v ∈ values, v.type = kind.scalar) :
    ∃ payloads : List kind.Payload, values.mapM (Value.asScalar kind) = .ok payloads := by
  refine exists_mapM_eq_ok_iff.2 fun v hv => ?_
  obtain ⟨hscalar, rfl⟩ := Value.type_eq_scalar_iff.1 (h v hv)
  obtain ⟨payload, hpayload⟩ := exists_payload hscalar helement
  exact ⟨payload, by rw [Value.asScalar, hpayload]⟩

/-- An array can be made of payloads, and it lists their scalars. -/
theorem exists_ofPayloads (h : kind.isElement = true) (payloads : List kind.Payload) :
    ∃ items : ArrayValue, Value.ofPayloads kind payloads = some (.array items) ∧
      items.elements = payloads.map (Value.ofPayload kind) := by
  cases kind with
  | null => cases h
  | propertyName => cases h
  | _ => exact ⟨_, rfl, rfl⟩

/-- An array is made of its payloads, and these are read off it. -/
theorem ArrayValue.exists_payloads (items : ArrayValue) : ∃ payloads : List items.kind.Payload,
    items.elements = payloads.map (Value.ofPayload items.kind) ∧
      Value.ofPayloads items.kind payloads = some (.array items) ∧
      (Value.array items).asArray items.kind = .ok payloads := by
  cases items <;> exact ⟨_, rfl, rfl, rfl⟩

theorem elementAs_eq_ok {payloads : List kind.Payload} {i : Nat} {payload : kind.Payload}
    (h : a.asArray kind = .ok payloads) (hi : payloads[i]? = some payload) :
    a.elementAs kind i = .ok payload := by
  refine bind_eq_ok_iff.2 ⟨payloads, h, ?_⟩
  rw [hi]

theorem elementAs_eq_error {payloads : List kind.Payload} {i : Nat}
    (h : a.asArray kind = .ok payloads) (hi : payloads.length ≤ i) :
    a.elementAs kind i = .error (.indexOutOfBounds i payloads.length) := by
  refine bind_eq_error_iff.2 (.inr ⟨payloads, h, ?_⟩)
  rw [List.getElem?_eq_none hi]

theorem asArray_of_kind_ne (h : kind ≠ items.kind) :
    (Value.array items).asArray kind = .error (.wrongType kind.array (Value.array items).type) := by
  cases items <;> cases kind <;> first | rfl | exact absurd rfl h

/-! ## The first member that does not fit -/

theorem isForeign_iff : (v.isArray || v.kind != kind) = true ↔ v.type ≠ kind.scalar := by
  rw [ne_eq, Value.type_eq_scalar_iff, Bool.or_eq_true, bne_iff_ne, not_and_or,
    Bool.not_eq_false]

/-- A list holds nothing foreign to a kind when all its members are scalars of that kind. -/
theorem firstForeign?_eq_none_iff {index : Nat} :
    Value.firstForeign? kind index values = none ↔ ∀ v ∈ values, v.type = kind.scalar := by
  induction values generalizing index with
  | nil => simp [Value.firstForeign?]
  | cons v rest ih =>
    rw [Value.firstForeign?, List.forall_mem_cons, ← @ih (index + 1)]
    split
    · next hforeign => exact iff_of_false nofun fun h => isForeign_iff.1 hforeign h.1
    · next hnone =>
      rw [isForeign_iff, not_not] at hnone
      exact (and_iff_right hnone).symm

/-- What is reported is the first member that is no scalar of the kind, with its place. -/
theorem firstForeign?_eq_some {start index : Nat} (hindex : values[index]? = some v)
    (hforeign : v.type ≠ kind.scalar)
    (hbefore : ∀ j w, j < index → values[j]? = some w → w.type = kind.scalar) :
    Value.firstForeign? kind start values = some (start + index, v) := by
  induction values generalizing start index with
  | nil => cases hindex
  | cons w rest ih =>
    rw [Value.firstForeign?]
    cases index with
    | zero =>
      cases hindex
      rw [if_pos (isForeign_iff.2 hforeign), Nat.add_zero]
    | succ index =>
      have hw : w.type = kind.scalar := hbefore 0 w (Nat.succ_pos _) rfl
      rw [if_neg (fun h => isForeign_iff.1 h hw),
        ih hindex fun j u hj hu => hbefore (j + 1) u (Nat.succ_lt_succ hj) hu]
      congr 2
      omega

/-! ## Making an array -/

/-- The first member is what an array can be made of. -/
theorem leads_iff : (first.isArray || !first.kind.isElement) = false ↔
    first.kind.isElement = true ∧ first.type = first.kind.scalar := by
  rw [Value.type_eq_scalar_iff, Bool.or_eq_false_iff, Bool.not_eq_false', and_iff_left rfl,
    and_comm]

/-- An array is made of scalars when these are its elements. -/
theorem ofScalars_eq_ok_iff :
    Value.ofScalars values = .ok a ↔
      values ≠ [] ∧ ∃ items, a = .array items ∧ items.elements = values := by
  constructor
  · intro h
    cases values with
    | nil => cases h
    | cons first rest =>
      refine ⟨List.cons_ne_nil _ _, ?_⟩
      rw [Value.ofScalars] at h
      split at h
      · cases h
      next hfirst =>
      split at h
      · cases h
      simp only [bind_eq_ok_iff, mapM_asScalar_eq_ok_iff] at h
      obtain ⟨payloads, hpayloads, h⟩ := h
      obtain ⟨helement, -⟩ := leads_iff.1 (Bool.not_eq_true _ ▸ hfirst)
      obtain ⟨items, hitems, helements⟩ := exists_ofPayloads helement payloads
      rw [hitems] at h
      cases h
      exact ⟨items, rfl, helements.trans hpayloads.symm⟩
  · rintro ⟨hne, items, rfl, rfl⟩
    obtain ⟨payloads, hpayloads, hitems, -⟩ := items.exists_payloads
    have hmap := mapM_asScalar_eq_ok_iff.2 hpayloads
    cases hlist : items.elements with
    | nil => exact absurd hlist hne
    | cons first rest =>
      have hfirst := ArrayValue.type_of_mem_elements (hlist ▸ List.mem_cons_self)
      have hkind := (Value.type_eq_scalar_iff.1 hfirst).2
      have hleads := leads_iff.2 ⟨hkind ▸ items.isElement_kind, hkind ▸ hfirst⟩
      have hrest : Value.firstForeign? items.kind 1 rest = none :=
        firstForeign?_eq_none_iff.2 fun v hv =>
          ArrayValue.type_of_mem_elements (hlist ▸ List.mem_cons_of_mem _ hv)
      rw [hlist] at hmap
      rw [Value.ofScalars, hleads, hkind, hrest]
      refine bind_eq_ok_iff.2 ⟨payloads, hmap, ?_⟩
      rw [hitems]

theorem exists_ofScalars_iff :
    (∃ a, Value.ofScalars values = .ok a) ↔
      values ≠ [] ∧ ∃ kind : Kind, kind.isElement = true ∧ ∀ v ∈ values, v.type = kind.scalar := by
  constructor
  · rintro ⟨a, ha⟩
    obtain ⟨hne, items, rfl, rfl⟩ := ofScalars_eq_ok_iff.1 ha
    exact ⟨hne, items.kind, items.isElement_kind, fun v => ArrayValue.type_of_mem_elements⟩
  · rintro ⟨hne, kind, helement, htype⟩
    obtain ⟨payloads, hpayloads⟩ := exists_payloads_of_type helement htype
    obtain ⟨items, -, hitems⟩ := exists_ofPayloads helement payloads
    exact ⟨.array items, ofScalars_eq_ok_iff.2
      ⟨hne, items, rfl, hitems.trans (mapM_asScalar_eq_ok_iff.1 hpayloads).symm⟩⟩

/-- Members of other types than the first are reported, the one in the least place first. -/
theorem ofScalars_eq_mixedKinds {index : Nat} (helement : first.kind.isElement = true)
    (hfirst : first.isArray = false) (hindex : (first :: rest)[index]? = some v)
    (hforeign : v.type ≠ first.type)
    (hbefore : ∀ j w, j < index → (first :: rest)[j]? = some w → w.type = first.type) :
    Value.ofScalars (first :: rest) = .error (.mixedKinds index first.kind v.kind) := by
  have htype : first.type = first.kind.scalar := Value.type_eq_scalar_iff.2 ⟨hfirst, rfl⟩
  rw [htype] at hforeign hbefore
  cases index with
  | zero =>
    cases hindex
    exact absurd htype hforeign
  | succ index =>
    rw [List.getElem?_cons_succ] at hindex
    rw [Value.ofScalars, leads_iff.2 ⟨helement, htype⟩,
      firstForeign?_eq_some hindex hforeign
        (fun j w hj hw => hbefore (j + 1) w (Nat.succ_lt_succ hj) hw), Nat.add_comm 1 index]
    rfl

/-! ## Reading an array -/

/-- An array lists values: it has as many elements, and each in its place. -/
def Value.Lists (a : Value) (values : List Value) : Prop :=
  a.size? = some values.length ∧ ∀ i v, values[i]? = some v → a.element i = .ok v

theorem ArrayValue.lists_elements (items : ArrayValue) :
    (Value.array items).Lists items.elements := by
  refine ⟨congrArg some items.length_elements.symm, fun i v hv => ?_⟩
  rw [Value.element, ArrayValue.get?, hv]

/-- A list of values is told by the array that lists it. -/
theorem Value.Lists.exists_eq (h : a.Lists values) :
    ∃ items, a = .array items ∧ items.elements = values := by
  obtain ⟨hsize, helement⟩ := h
  cases a with
  | array items =>
    refine ⟨items, rfl, List.ext_getElem? fun i => ?_⟩
    rw [Value.size?, ← ArrayValue.length_elements, Option.some.injEq] at hsize
    cases hv : values[i]? with
    | none =>
      rw [List.getElem?_eq_none_iff] at hv ⊢
      exact hsize ▸ hv
    | some v =>
      have hi := helement i v hv
      rw [Value.element, ArrayValue.get?] at hi
      split at hi
      · next w hw => rw [hw, Except.ok.inj hi]
      · cases hi
  | _ => cases hsize

/-- All there is to read of an array of the values of a list: how many they are and of which kind,
each value in its place and its payload, that there are no more, and that they are of no other
kind. -/
structure Value.Holds (a : Value) (values : List Value) : Prop where
  type : a.type = a.kind.array
  lists : a.Lists values
  kind : ∀ v ∈ values, v.type = a.kind.scalar
  payloads : ∃ payloads, a.asArray a.kind = .ok payloads ∧
    values.mapM (Value.asScalar a.kind) = .ok payloads
  payload : ∀ i v, values[i]? = some v →
    ∃ payload, a.elementAs a.kind i = .ok payload ∧ v.asScalar a.kind = .ok payload
  pastEnd : ∀ i, values.length ≤ i →
    a.element i = .error (.indexOutOfBounds i values.length) ∧
      a.elementAs a.kind i = .error (.indexOutOfBounds i values.length)
  otherKind : ∀ kind, kind ≠ a.kind →
    a.asArray kind = .error (.wrongType kind.array a.type) ∧
      ∀ i, a.elementAs kind i = .error (.wrongType kind.array a.type)

theorem ArrayValue.holds_elements (items : ArrayValue) :
    (Value.array items).Holds items.elements := by
  obtain ⟨payloads, hpayloads, -, hlist⟩ := items.exists_payloads
  constructor
  case type => rfl
  case lists => exact items.lists_elements
  case kind => exact fun v => ArrayValue.type_of_mem_elements
  case payloads => exact ⟨payloads, hlist, mapM_asScalar_eq_ok_iff.2 hpayloads⟩
  case payload =>
    intro i v hv
    rw [hpayloads, List.getElem?_map, Option.map_eq_some_iff] at hv
    obtain ⟨payload, hi, rfl⟩ := hv
    exact ⟨payload, elementAs_eq_ok hlist hi, asScalar_eq_ok_iff.2 rfl⟩
  case pastEnd =>
    intro i hi
    constructor
    · rw [Value.element, ArrayValue.get?, List.getElem?_eq_none hi, items.length_elements]
    · rw [hpayloads, List.length_map] at hi ⊢
      exact elementAs_eq_error hlist hi
  case otherKind =>
    intro kind hkind
    exact ⟨asArray_of_kind_ne hkind, fun i => bind_eq_error_iff.2 (.inl (asArray_of_kind_ne hkind))⟩

/-! ## Arrays are what their elements are -/

/-- An array can be made of values when there are some and they are scalars of one kind that arrays
are made of, and then all of them are read off it. What keeps an array from being made is that
there are no values, that arrays are not made of values such as the first, or the first value of
another type than it. Made of the values it lists, an array is itself. -/
theorem Value.ofScalars_elements (values : List Value) :
    ((∃ a, ofScalars values = .ok a) ↔
      values ≠ [] ∧ ∃ kind : Kind, kind.isElement = true ∧ ∀ v ∈ values, v.type = kind.scalar) ∧
    (∀ a, ofScalars values = .ok a → a.Holds values) ∧
    (values = [] → ofScalars values = .error .emptyArray) ∧
    (∀ first rest, values = first :: rest →
      (first.isArray = true ∨ first.kind.isElement = false →
        ofScalars values = .error (.notElement first.type)) ∧
      (first.isArray = false → first.kind.isElement = true → ∀ i v, values[i]? = some v →
        v.type ≠ first.type → (∀ j w, j < i → values[j]? = some w → w.type = first.type) →
        ofScalars values = .error (.mixedKinds i first.kind v.kind))) ∧
    (∀ a, a.Lists values → values ≠ [] → ofScalars values = .ok a) ∧
    (∀ a : Value, a.isArray = true → ∃ elements, a.Lists elements) := by
  refine ⟨exists_ofScalars_iff, fun a ha => ?_, ?_, ?_, fun a ha hne => ?_, fun a ha => ?_⟩
  · obtain ⟨-, items, rfl, rfl⟩ := ofScalars_eq_ok_iff.1 ha
    exact items.holds_elements
  · rintro rfl
    rfl
  · rintro first rest rfl
    refine ⟨fun h => ?_, fun harray helement i v hi hforeign hbefore =>
      ofScalars_eq_mixedKinds helement harray hi hforeign hbefore⟩
    rw [← Bool.not_eq_true', ← Bool.or_eq_true] at h
    rw [ofScalars, h]
    rfl
  · exact ofScalars_eq_ok_iff.2 ⟨hne, ha.exists_eq⟩
  · cases a with
    | array items => exact ⟨items.elements, items.lists_elements⟩
    | _ => cases ha

/-- The first text of a list sets its type, and an array of texts is not of it. -/
theorem Value.ofScalars_elements_texts :
    ofScalars [.string "a", .string "b"] = .ok (.array (.string ["a", "b"])) ∧
      (Value.array (.string ["a", "b"])).Holds [.string "a", .string "b"] ∧
      ofScalars [.string "a", .array (.string ["b"])] =
        .error (.mixedKinds 1 .string .string) := by
  obtain ⟨-, hholds, -, -, hmade, -⟩ := ofScalars_elements [.string "a", .string "b"]
  obtain ⟨-, -, -, hfault, -⟩ := ofScalars_elements [.string "a", .array (.string ["b"])]
  have hok := hmade _ (ArrayValue.lists_elements (.string ["a", "b"])) (List.cons_ne_nil _ _)
  refine ⟨hok, hholds _ hok, (hfault _ _ rfl).2 rfl rfl 1 _ rfl (by decide) fun j w hj hw => ?_⟩
  obtain rfl : j = 0 := by omega
  cases hw
  rfl

end InstanceFilter
