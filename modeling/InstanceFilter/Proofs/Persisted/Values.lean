/-
Values that persist. A double that is not finite is written as null, a date-time beyond the limits
of its constructors and a path whose text reads as another path are written as texts that do not
read back; a value without any of these, however deep in a chain, is restored as it was but for what
is finer than a microsecond in its date-times. The restored value is the same as the one that was
written unless that moves an instant.
-/
import InstanceFilter.Persisted.Decoder
import InstanceFilter.Persisted.Encoder
import InstanceFilter.Proofs.DateTime.RoundTrip
import InstanceFilter.Proofs.ObjectPath.Unchanged
import InstanceFilter.Proofs.Value.Precision
import InstanceFilter.Proofs.Value.Sameness

namespace InstanceFilter

/-! ## What can be persisted -/

/-- All doubles are finite, all date-times are ones that the constructors accept, and all paths come
back from their texts. -/
def ArrayValue.Persistable : ArrayValue → Prop
  | .double items => ∀ x ∈ items, x.isFinite = true
  | .dateTime items => ∀ d ∈ items, d.Valid
  | .reference items => ∀ path ∈ items, path.ComesBack
  | .integer _ | .boolean _ | .string _ => True

mutual

/-- As of an array, here of a value with all that it is made of. -/
def Value.Persistable : Value → Prop
  | .double x => x.isFinite = true
  | .dateTime d => d.Valid
  | .reference path => path.ComesBack
  | .property ref => ref.Persistable
  | .array items => items.Persistable
  | .null | .integer _ | .boolean _ | .string _ => True

def PropertyRef.Persistable : PropertyRef → Prop
  | ⟨_, _, chain⟩ => PersistableChain chain

def PersistableChain : List Value → Prop
  | [] => True
  | link :: rest => link.Persistable ∧ PersistableChain rest

end

/-! ## Documents of plain values -/

namespace Document

theorem toText_text (s : String) : toText (.text s) = .ok s := rfl

theorem toBool_boolean (b : Bool) : toBool (.boolean b) = .ok b := rfl

theorem toInt64_integer (n : Int64) : toInt64 (.integer n.toInt) = .ok n := by
  rw [toInt64, if_pos ⟨n.minValue_le_toInt, n.toInt_le⟩, Int64.ofInt_toInt]

theorem toSize_integer (n : UInt64) : toSize (.integer n.toNat) = .ok n := by
  have hsmall : (n.toNat : Int) < UInt64.size := Int.ofNat_lt.2 n.toNat_lt
  rw [toSize, if_pos ⟨Int.natCast_nonneg _, hsmall⟩, Int.toNat_natCast]
  exact congrArg Except.ok UInt64.ofNat_toNat

theorem toDouble_ofDouble {x : Float} (h : x.isFinite = true) : (ofDouble x).toDouble = .ok x := by
  unfold ofDouble
  rw [if_pos h]
  rfl

theorem toDateTime_text {d : DateTime} (h : d.Valid) : toDateTime (.text d.toText) = .ok d.cut := by
  show (DateTime.parse (String.ofList d.render)).mapError RestoreError.dateTime = _
  rw [DateTime.parse, String.toList_ofList, DateTime.parseChars_render_cut h]
  rfl

theorem toObjectPath_text {path : ObjectPath} (h : path.ComesBack) :
    toObjectPath (.text path.toText) = .ok path := by
  show (ObjectPath.parse path.toText).mapError RestoreError.objectPath = _
  rw [ObjectPath.parse_toText_of_comesBack h]
  rfl

section Containers

variable {α : Type} {item : Document → Restored α} {document : α → Document}

theorem toList_ofList_map {items : List α} {f : α → α}
    (h : ∀ a ∈ items, item (document a) = .ok (f a)) :
    (ofList items document).toList item = .ok (items.map f) := by
  show (items.map document).mapM item = _
  induction items with
  | nil => rfl
  | cons a rest ih =>
    rw [List.map_cons, List.mapM_cons, h a List.mem_cons_self,
      ih fun b hb => h b (List.mem_cons_of_mem a hb)]
    rfl

theorem toList_ofList {items : List α} (h : ∀ a ∈ items, item (document a) = .ok a) :
    (ofList items document).toList item = .ok items :=
  (toList_ofList_map h).trans (congrArg Except.ok (List.map_id items))

/-- A list that is read back is there for what is made of it. -/
theorem bind_toList_ofList {β : Type} {items : List α}
    (h : ∀ a ∈ items, item (document a) = .ok a) (next : List α → Restored β) :
    ((ofList items document).toList item >>= next) = next items := by
  rw [toList_ofList h]
  rfl

/-- An item that is written as null could not be told from a missing one. -/
theorem toOption_ofOption (hnull : ∀ a, document a ≠ .null) (h : ∀ a, item (document a) = .ok a)
    (found : Option α) : (ofOption found document).toOption item = .ok found := by
  cases found with
  | none => rfl
  | some a =>
    show (document a).toOption item = _
    rw [toOption.eq_2 item (document a) (hnull a), h a]
    rfl

end Containers

theorem toOption_ofSize (found : Option UInt64) :
    (ofOption found fun n => .integer n.toNat).toOption toSize = .ok found :=
  toOption_ofOption nofun toSize_integer found

end Document

open Document

/-! ## Values are restored -/

theorem ArrayValue.ofDocument_toDocument {items : ArrayValue} (h : items.Persistable) :
    ofDocument items.toDocument = .ok items.cut := by
  cases items with
  | integer items => exact bind_toList_ofList (fun n _ => toInt64_integer n) _
  | double items => exact bind_toList_ofList (fun x hx => toDouble_ofDouble (h x hx)) _
  | boolean items => exact bind_toList_ofList (fun b _ => toBool_boolean b) _
  | string items => exact bind_toList_ofList (fun s _ => toText_text s) _
  | dateTime items =>
    have hitems : (ofList items fun d => .text d.toText).toList toDateTime =
        .ok (items.map DateTime.cut) :=
      toList_ofList_map fun d hd => toDateTime_text (h d hd)
    exact congrArg (Except.map ArrayValue.dateTime) hitems
  | reference items => exact bind_toList_ofList (fun path hp => toObjectPath_text (h path hp)) _

mutual

theorem Value.ofDocument_toDocument {v : Value} (h : v.Persistable) :
    Value.ofDocument v.toDocument = .ok v.cut := by
  cases v with
  | null => rfl
  | integer n => exact congrArg (Except.map Value.integer) (toInt64_integer n)
  | double x => exact congrArg (Except.map Value.double) (toDouble_ofDouble h)
  | boolean b => rfl
  | string s => rfl
  | dateTime d => exact congrArg (Except.map Value.dateTime) (toDateTime_text h)
  | reference path => exact congrArg (Except.map Value.reference) (toObjectPath_text h)
  | property ref => exact congrArg (Except.map Value.property) (PropertyRef.ofDocument_toDocument h)
  | array items => exact congrArg (Except.map Value.array) (ArrayValue.ofDocument_toDocument h)

theorem PropertyRef.ofDocument_toDocument {ref : PropertyRef} (h : ref.Persistable) :
    PropertyRef.ofDocument ref.toDocument = .ok ref.cut := by
  obtain ⟨name, index, chain⟩ := ref
  have hchain := valuesOfDocuments_toDocuments h
  simp only [PropertyRef.toDocument, PropertyRef.ofDocument, readPropertyFields,
    toOption_ofSize, hchain]
  rfl

theorem valuesOfDocuments_toDocuments {values : List Value} (h : PersistableChain values) :
    valuesOfDocuments (valuesToDocuments values) = .ok (cutChain values) := by
  cases values with
  | nil => rfl
  | cons v rest =>
    rw [valuesToDocuments, valuesOfDocuments, Value.ofDocument_toDocument h.1,
      valuesOfDocuments_toDocuments h.2]
    rfl

end

/-! ## And are the same -/

theorem isNaN_of_isFinite {x : Float} (h : x.isFinite = true) : x.isNaN = false := by
  have hfinite : x.toModel.unpack.isFinite = true := h
  show x.toModel.unpack.isNaN = false
  cases hx : x.toModel.unpack with
  | notANumber =>
    rw [hx] at hfinite
    cases hfinite
  | _ => rfl

theorem DateTime.same_cut_iff {d : DateTime} : d.cut.same d = true ↔ d.RoundsDown := by
  rw [same_iff, normalized_cut_iff]
  exact and_iff_right d.isInterval_cut

theorem ArrayValue.same_cut_iff {items : ArrayValue} (h : items.Persistable) :
    items.cut.same items = true ↔ ∀ d ∈ items.dateTimes, d.RoundsDown := by
  have hnone : ∀ d ∈ ([] : List DateTime), d.RoundsDown := List.forall_mem_nil _
  cases items with
  | dateTime items =>
    rw [cut, same, sameList_iff, List.forall₂_map_left_iff, List.forall₂_same]
    exact forall₂_congr fun d _ => DateTime.same_cut_iff
  | double items =>
    exact iff_of_true (sameList_self fun x hx => double_beq_self (isNaN_of_isFinite (h x hx))) hnone
  | reference items => exact iff_of_true (sameList_self fun path _ => path.same_self) hnone
  | _ => exact iff_of_true (sameList_self fun _ _ => beq_self_eq_true _) hnone

mutual

/-- A value that can be persisted is the same without what is finer than a microsecond exactly when
that leaves the instants of its date-times where they are. -/
theorem Value.same_cut_iff {v : Value} (h : v.Persistable) :
    v.cut.same v = true ↔ ∀ d ∈ v.dateTimes, d.RoundsDown := by
  have hnone : ∀ d ∈ ([] : List DateTime), d.RoundsDown := List.forall_mem_nil _
  cases v with
  | null => exact iff_of_true rfl hnone
  | double x => exact iff_of_true (double_beq_self (isNaN_of_isFinite h)) hnone
  | dateTime d => exact DateTime.same_cut_iff.trans List.forall_mem_singleton.symm
  | reference path => exact iff_of_true path.same_self hnone
  | property ref => exact PropertyRef.same_cut_iff h
  | array items => exact ArrayValue.same_cut_iff h
  | _ => exact iff_of_true (beq_self_eq_true _) hnone

theorem PropertyRef.same_cut_iff {ref : PropertyRef} (h : ref.Persistable) :
    ref.cut.same ref = true ↔ ∀ d ∈ ref.dateTimes, d.RoundsDown := by
  obtain ⟨name, index, chain⟩ := ref
  rw [PropertyRef.cut, PropertyRef.same, beq_self_eq_true, beq_self_eq_true]
  exact sameChain_cutChain_iff h

theorem sameChain_cutChain_iff {chain : List Value} (h : PersistableChain chain) :
    sameChain (cutChain chain) chain = true ↔ ∀ d ∈ chainDateTimes chain, d.RoundsDown := by
  cases chain with
  | nil => exact iff_of_true rfl (List.forall_mem_nil _)
  | cons link rest =>
    rw [cutChain, sameChain, Bool.and_eq_true, Value.same_cut_iff h.1,
      sameChain_cutChain_iff h.2, chainDateTimes, List.forall_mem_append]

end

end InstanceFilter
