/-
Instances as ordered maps. What an instance holds is told by the history of its changes: under a
name, in any case of its letters, there is what was set last and not removed since; and the names
stand in the order in which their slots were opened, each in the spelling that opened it. A change
leaves the slots of all other names as they are.

The induction is over the history from its end: each kind of change has one lemma for what it does
to the names of an instance and one for what it does to the account of the history.
-/
import InstanceFilter.Source.Instance
import Mathlib

namespace InstanceFilter.Instance

/-- A change of an instance: a property is set, to a value, to an object or to an array of objects,
or it is removed. -/
inductive Change where
  | set (name : String) (property : Property)
  | remove (name : String)

namespace Change

def name : Change → String
  | .set name _ => name
  | .remove name => name

/-- The property that is there after the change. -/
def property? : Change → Option Property
  | .set _ property => some property
  | .remove _ => none

def removes : Change → String → Bool
  | .set _ _, _ => false
  | .remove name, known => Text.sameName known name

def applyTo (object : Instance) : Change → Instance
  | .set name property => object.set name property
  | .remove name => (object.remove name).1

end Change

/-- A new instance after a history of changes. -/
def afterChanges (className : String) (changes : List Change) : Instance :=
  changes.foldl Change.applyTo (.ofClass className)

/-! ## Accounts of a history -/

/-- What stands under a name after a history: what the last change under that name left there. -/
def standing? (changes : List Change) (name : String) : Option Property :=
  (changes.reverse.find? fun change => Text.sameName change.name name).bind Change.property?

/-- The name of the slot that a change opened, if it did and the slot is still there: the change set
a property where none stood, and none of the changes after it removed that. -/
def opened? (changes : List Change) (place : Nat) : Option String :=
  match changes[place]? with
  | some (.set name _) =>
    if (standing? (changes.take place) name).isNone &&
        (changes.drop (place + 1)).all fun later => !later.removes name then some name else none
  | _ => none

/-- The names of the slots that are there, in the order in which they were opened. -/
def openedNames (changes : List Change) : List String :=
  (List.range changes.length).filterMap (opened? changes)

variable {className name : String} {property : Property} {change : Change} {changes : List Change}
  {object : Instance}

theorem standing?_concat : standing? (changes ++ [change]) name =
    if Text.sameName change.name name then change.property? else standing? changes name := by
  unfold standing?
  rw [List.reverse_concat, List.find?_cons]
  cases Text.sameName change.name name <;> rfl

/-- Of the slots that were opened before, a change closes those that it removes. -/
theorem opened?_concat {place : Nat} (h : place < changes.length) :
    opened? (changes ++ [change]) place =
      (opened? changes place).filter fun name => !change.removes name := by
  unfold opened?
  rw [List.getElem?_append_left h, List.take_append_of_le_length (Nat.le_of_lt h),
    List.drop_append_of_le_length h]
  match changes[place]? with
  | none => rfl
  | some (.remove _) => rfl
  | some (.set name _) =>
    -- the slot is still there if it was before and is not among those that the change removes
    simp only [List.all_append, List.all_cons, List.all_nil, Bool.and_true, ← Bool.and_assoc]
    split
    · next hboth =>
      rw [Bool.and_eq_true] at hboth
      rw [if_pos hboth.1, Option.filter_some, if_pos hboth.2]
    · next hnot =>
      split
      · next hbefore =>
        rw [hbefore, Bool.true_and] at hnot
        rw [Option.filter_some, if_neg hnot]
      · rfl

theorem openedNames_concat : openedNames (changes ++ [change]) =
    (openedNames changes).filter (fun name => !change.removes name) ++
      (opened? (changes ++ [change]) changes.length).toList := by
  have hbefore : (List.range changes.length).filterMap (opened? (changes ++ [change])) =
      (openedNames changes).filter fun name => !change.removes name := by
    rw [openedNames, List.filter_filterMap]
    exact List.filterMap_congr fun place hplace => opened?_concat (List.mem_range.1 hplace)
  rw [openedNames, List.length_append, List.length_singleton, List.range_succ,
    List.filterMap_append, hbefore]
  congr 1

/-- Setting a property opens a slot where none stands. -/
theorem openedNames_set : openedNames (changes ++ [.set name property]) =
    if (standing? changes name).isNone then openedNames changes ++ [name]
    else openedNames changes := by
  have hkept :
      (openedNames changes).filter (fun known => !(Change.set name property).removes known) =
        openedNames changes :=
    List.filter_eq_self.2 fun _ _ => rfl
  rw [openedNames_concat, hkept]
  cases hstanding : (standing? changes name).isNone <;> simp [opened?, hstanding]

theorem openedNames_remove : openedNames (changes ++ [.remove name]) =
    (openedNames changes).filter fun known => !Text.sameName known name := by
  rw [openedNames_concat]
  simp [opened?, Change.removes]

/-! ## What a change does -/

theorem find?_eq_none_iff : object.find? name = none ↔
    ∀ known ∈ object.names, Text.sameName known name = false := by
  simp [find?, names]

theorem find?_applyTo (change : Change) (object : Instance) (other : String) :
    (change.applyTo object).find? other =
      if Text.sameName change.name other then change.property? else object.find? other := by
  cases change with
  | set name property => exact find?_set object name property other
  | remove name => exact find?_remove object name other

theorem names_set (object : Instance) (name : String) (property : Property) :
    (object.set name property).names =
      if (object.find? name).isNone then object.names ++ [name] else object.names := by
  show (setIn name property object.properties).map (·.1) =
    if ((object.properties.find? fun slot => Text.sameName slot.1 name).map (·.2)).isNone then
      object.properties.map (·.1) ++ [name] else object.properties.map (·.1)
  rw [Option.isNone_map]
  induction object.properties with
  | nil => rfl
  | cons slot rest ih =>
    obtain ⟨known, old⟩ := slot
    rw [setIn, List.find?_cons]
    cases hknown : Text.sameName known name with
    | true => rfl
    | false =>
      simp only [Bool.false_eq_true, if_false, List.map_cons, ih]
      split <;> rfl

theorem names_remove (object : Instance) (name : String) :
    (object.remove name).1.names = object.names.filter fun known => !Text.sameName known name := by
  rw [names, names, List.filter_map]
  rfl

/-- Whether a property was removed tells whether it was there. -/
theorem removed_iff (object : Instance) (name : String) :
    (object.remove name).2 = true ↔ ∃ known ∈ object.names, Text.sameName known name = true := by
  simp only [remove, names, bne_iff_ne, ne_eq, List.length_filter_eq_length_iff]
  simp

/-- A change leaves all slots but those of its name as they are, and in their order. -/
theorem others_applyTo (change : Change) (object : Instance) :
    (change.applyTo object).properties.filter (fun slot => !Text.sameName slot.1 change.name) =
      object.properties.filter fun slot => !Text.sameName slot.1 change.name := by
  cases change with
  | set name property =>
    show (setIn name property object.properties).filter (fun slot => !Text.sameName slot.1 name) =
      object.properties.filter fun slot => !Text.sameName slot.1 name
    induction object.properties with
    | nil => simp [setIn]
    | cons slot rest ih =>
      obtain ⟨known, old⟩ := slot
      rw [setIn]
      cases hknown : Text.sameName known name with
      | true => simp [hknown]
      | false => simp [hknown, ih]
  | remove name =>
    show (object.properties.filter _).filter _ = _
    rw [List.filter_filter]
    simp [Change.name]

/-- A change keeps the names apart. -/
theorem distinct_applyTo (change : Change)
    (h : object.names.Pairwise fun a b => Text.sameName a b = false) :
    (change.applyTo object).names.Pairwise fun a b => Text.sameName a b = false := by
  cases change with
  | set name property =>
    rw [Change.applyTo, names_set]
    split
    · next hnew =>
      rw [Option.isNone_iff_eq_none, find?_eq_none_iff] at hnew
      have hapart : ∀ known ∈ object.names, ∀ new ∈ [name], Text.sameName known new = false :=
        fun known hknown => List.forall_mem_singleton.2 (hnew known hknown)
      exact List.pairwise_append.2 ⟨h, List.pairwise_singleton _ _, hapart⟩
    · exact h
  | remove name =>
    rw [Change.applyTo, names_remove]
    exact h.filter _

/-! ## What a history leaves -/

theorem afterChanges_concat : afterChanges className (changes ++ [change]) =
    change.applyTo (afterChanges className changes) :=
  List.foldl_append ..

theorem find?_afterChanges (className : String) (changes : List Change) (name : String) :
    (afterChanges className changes).find? name = standing? changes name := by
  induction changes using List.reverseRecOn with
  | nil => rfl
  | append_singleton changes change ih =>
    rw [afterChanges_concat, find?_applyTo, standing?_concat, ih]

theorem names_afterChanges (className : String) (changes : List Change) :
    (afterChanges className changes).names = openedNames changes := by
  induction changes using List.reverseRecOn with
  | nil => rfl
  | append_singleton changes change ih =>
    rw [afterChanges_concat]
    cases change with
    | set name property =>
      rw [Change.applyTo, names_set, openedNames_set, ih, find?_afterChanges]
    | remove name => rw [Change.applyTo, names_remove, openedNames_remove, ih]

/-- No two names are the same. -/
theorem distinct_afterChanges (className : String) (changes : List Change) :
    (afterChanges className changes).names.Pairwise fun a b => Text.sameName a b = false := by
  induction changes using List.reverseRecOn with
  | nil => exact .nil
  | append_singleton changes change ih =>
    rw [afterChanges_concat]
    exact distinct_applyTo change ih

/-! ## What is answered -/

theorem value?_eq_some_iff {v : Value} :
    object.value? name = some v ↔ object.find? name = some (.value v) := by
  unfold value?
  constructor
  · intro h
    split at h
    · next hfound =>
      cases h
      exact hfound
    · cases h
  · intro h
    rw [h]

/-- An object is reached without an index, one of an array with an index that the array has. -/
theorem embedded?_eq_some_iff {index : Option Nat} {inner : Instance} :
    object.embedded? name index = some inner ↔
      index = none ∧ object.find? name = some (.embedded inner) ∨
      ∃ place objects, index = some place ∧ object.find? name = some (.embeddedArray objects) ∧
        objects[place]? = some inner := by
  unfold embedded?
  constructor
  · intro h
    split at h
    · next hfound =>
      cases h
      exact .inl ⟨rfl, hfound⟩
    · next objects place hfound => exact .inr ⟨place, objects, rfl, hfound, h⟩
    · cases h
  · rintro (⟨rfl, hfound⟩ | ⟨place, objects, rfl, hfound, h⟩)
    · rw [hfound]
    · rw [hfound]
      exact h

/-- An instance is an ordered map of properties. After any history, no two of its names are the
same; they stand in the order in which the history opened their slots, each in the spelling that
opened it; under every spelling of a name, what is answered is what was set there last and not
removed since, whatever had been there before it; a removal tells whether the name was there; and a
change of one name leaves the slots of all others, their order, and what they answer. -/
theorem ordered_map (className : String) (changes : List Change) :
    let object := afterChanges className changes
    object.names.Pairwise (fun a b => Text.sameName a b = false) ∧
    object.names = openedNames changes ∧
    (∀ name v, object.value? name = some v ↔ standing? changes name = some (.value v)) ∧
    (∀ name index inner, object.embedded? name index = some inner ↔
      index = none ∧ standing? changes name = some (.embedded inner) ∨
      ∃ place objects, index = some place ∧
        standing? changes name = some (.embeddedArray objects) ∧ objects[place]? = some inner) ∧
    (∀ name, (object.remove name).2 = true ↔
      ∃ known ∈ object.names, Text.sameName known name = true) ∧
    ∀ change : Change,
      (change.applyTo object).properties.filter (fun slot => !Text.sameName slot.1 change.name) =
        object.properties.filter (fun slot => !Text.sameName slot.1 change.name) ∧
      ∀ other, Text.sameName change.name other = false →
        (change.applyTo object).value? other = object.value? other ∧
        ∀ index, (change.applyTo object).embedded? other index = object.embedded? other index := by
  intro object
  refine ⟨distinct_afterChanges className changes, names_afterChanges className changes, ?_, ?_,
    fun name => removed_iff object name, fun change => ⟨others_applyTo change object, ?_⟩⟩
  · intro name v
    rw [value?_eq_some_iff, find?_afterChanges]
  · intro name index inner
    rw [embedded?_eq_some_iff, find?_afterChanges]
  · intro other hother
    have hfind : (change.applyTo object).find? other = object.find? other := by
      rw [find?_applyTo, hother]
      rfl
    refine ⟨?_, fun index => ?_⟩
    · unfold value?
      rw [hfind]
    · unfold embedded?
      rw [hfind]

/-- An object in place of a count keeps its slot; items that come back come last, spelled anew. -/
theorem ordered_map_respelled :
    let changes : List Change :=
      [.set "Count" (.value (.integer 1)), .set "Items" (.embeddedArray [.ofClass "Item"]),
        .set "count" (.embedded (.ofClass "Counter")), .remove "ITEMS",
        .set "items" (.value (.integer 2))]
    let object := afterChanges "Host" changes
    object.names = ["Count", "items"] ∧ object.embedded? "COUNT" none = some (.ofClass "Counter") ∧
      object.value? "Items" = some (.integer 2) ∧ (object.remove "count").2 = true ∧
      (object.remove "count").1.value? "ITEMS" = some (.integer 2) := by
  intro changes object
  obtain ⟨-, hnames, hvalue, hembedded, hremove, hother⟩ := ordered_map "Host" changes
  have hitems : object.value? "Items" = some (.integer 2) := (hvalue ..).2 (by cbv)
  have hopened : object.names = ["Count", "items"] := hnames.trans (by decide +kernel)
  refine ⟨hopened, (hembedded ..).2 (.inl ⟨rfl, by cbv⟩), hitems, ?_, ?_⟩
  · exact (hremove "count").2 ⟨"Count", by rw [hopened]; decide, by decide⟩
  · exact ((hother (.remove "count")).2 "ITEMS" (by decide)).1.trans ((hvalue ..).2 (by cbv))

end InstanceFilter.Instance
