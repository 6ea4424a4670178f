/-
Instances that hold the same. An instance is built by setting and removing properties, and it keeps
the order, the spelling and the class name of its building. None of these is seen by a program:
two instances with the same properties under the same names in any case, embedded objects compared
in the same way, are told apart by no evaluation, and neither are two programs whose references
spell their names in different case.

A chain of links is walked in both instances at once: the objects that a link leads to hold the
same again, so the induction is over the chain and needs none over the nesting of the objects.
-/
import InstanceFilter.Proofs.Evaluation.Substitution
import InstanceFilter.Proofs.Source.History

namespace InstanceFilter

/-! ## Building instances -/

/-- The objects embedded in a property. -/
def Property.objects : Property → List Instance
  | .value _ => []
  | .embedded object => [object]
  | .embeddedArray objects => objects

namespace Instance

/-- What is obtained from a new instance by setting and removing properties, where the embedded
objects have been obtained in the same way. -/
inductive Built : Instance → Prop
  | ofClass (className : String) : Built (.ofClass className)
  | set {object : Instance} {property : Property} (name : String) :
    Built object → (∀ inner ∈ property.objects, Built inner) → Built (object.set name property)
  | remove {object : Instance} (name : String) : Built object → Built (object.remove name).1

/-- No two slots are of the same name. -/
def Distinct (slots : List (String × Property)) : Prop :=
  slots.Pairwise fun a b => Text.sameName a.1 b.1 = false

theorem Built.distinct {object : Instance} (h : object.Built) : Distinct object.properties := by
  suffices hnames : object.names.Pairwise fun a b => Text.sameName a b = false by
    exact List.pairwise_map.1 hnames
  induction h with
  | ofClass className => exact .nil
  | set name _ _ ih => exact distinct_applyTo (.set name _) ih
  | remove name _ ih => exact distinct_applyTo (.remove name) ih

/-- Whatever is embedded in an instance that was built has been built. -/
theorem Built.of_mem_objects {object inner : Instance} {name : String} {property : Property}
    (h : object.Built) (hfind : object.find? name = some property)
    (hinner : inner ∈ property.objects) : inner.Built := by
  induction h with
  | ofClass className => cases hfind
  | set known _ hobjects ih _ =>
    rw [find?_set] at hfind
    split at hfind
    · cases hfind
      exact hobjects inner hinner
    · exact ih hfind
  | remove known _ ih =>
    rw [find?_remove] at hfind
    split at hfind
    · cases hfind
    · exact ih hfind

end Instance

/-! ## Instances that are alike -/

mutual

/-- The same value, or objects that are alike. -/
inductive Property.Alike : Property → Property → Prop
  | value (v : Value) : Property.Alike (.value v) (.value v)
  | embedded {object object' : Instance} :
    Instance.Alike object object' → Property.Alike (.embedded object) (.embedded object')
  | embeddedArray {objects objects' : List Instance} :
    List.Forall₂ Instance.Alike objects objects' →
      Property.Alike (.embeddedArray objects) (.embeddedArray objects')

/-- Properties that are alike, under the same name in any case. -/
inductive Slot.Alike : String × Property → String × Property → Prop
  | mk {name name' : String} {property property' : Property} :
    Text.sameName name name' = true → Property.Alike property property' →
      Slot.Alike (name, property) (name', property')

/-- The slots of one, brought into some order, pair up with those of the other. Their classes may
differ. -/
inductive Instance.Alike : Instance → Instance → Prop
  | mk {object object' : Instance} {slots : List (String × Property)} :
    object.properties.Perm slots → List.Forall₂ Slot.Alike slots object'.properties →
      Instance.Alike object object'

end

/-! ## What is found -/

namespace Instance

/-- The property that is found among slots under a name. -/
def findIn (name : String) (slots : List (String × Property)) : Option Property :=
  (slots.find? fun (known, _) => Text.sameName known name).map (·.2)

variable {name known : String} {property : Property} {slots slots' : List (String × Property)}

theorem findIn_cons : findIn name ((known, property) :: slots) =
    if Text.sameName known name then some property else findIn name slots := by
  unfold findIn
  rw [List.find?_cons]
  cases h : Text.sameName known name <;> simp [h]

/-- Behind a slot of one name, nothing is found under that name. -/
theorem findIn_eq_none (h : ∀ slot ∈ slots, Text.sameName known slot.1 = false)
    (hname : Text.sameName known name = true) : findIn name slots = none := by
  unfold findIn
  rw [List.find?_eq_none.2, Option.map_none]
  intro slot hslot
  have hslot := h slot hslot
  rw [Text.sameName_left_congr hname, Text.sameName_comm] at hslot
  simp [hslot]

theorem exists_mem_of_findIn (h : findIn name slots = some property) :
    ∃ known, (known, property) ∈ slots ∧ Text.sameName known name = true := by
  obtain ⟨⟨known, _⟩, hslot, rfl⟩ := Option.map_eq_some_iff.1 h
  exact ⟨known, List.mem_of_find?_eq_some hslot, by simpa using List.find?_some hslot⟩

/-- Among slots of distinct names, their order does not decide what is found. -/
theorem findIn_perm (h : slots.Perm slots') (hdistinct : Distinct slots) (name : String) :
    findIn name slots = findIn name slots' := by
  induction h with
  | nil => rfl
  | cons slot _ ih => rw [findIn_cons, findIn_cons, ih (List.pairwise_cons.1 hdistinct).2]
  | swap a b rest =>
    obtain ⟨first, property⟩ := a
    obtain ⟨second, property'⟩ := b
    have hapart : Text.sameName second first = false :=
      (List.pairwise_cons.1 hdistinct).1 (first, property) (by simp)
    simp only [findIn_cons]
    -- were both slots of the name sought, they would be of the same name
    cases hfirst : Text.sameName first name with
    | false => rfl
    | true =>
      rw [Text.sameName_right_congr hfirst] at hapart
      rw [hapart]
      rfl
  | trans hfirst _ ihfirst ihsecond =>
    have hmiddle : Distinct _ :=
      hdistinct.perm hfirst fun {a b} hab => by rwa [Text.sameName_comm]
    exact (ihfirst hdistinct).trans (ihsecond hmiddle)

/-- In slots that pair up, the same is found under the same name. -/
theorem findIn_forall₂ {name' : String} (h : List.Forall₂ Slot.Alike slots slots')
    (hname : Text.sameName name name' = true) :
    Option.Rel Property.Alike (findIn name slots) (findIn name' slots') := by
  induction h with
  | nil => exact .none
  | cons hslot _ ih =>
    obtain ⟨hknown, hproperty⟩ := hslot
    have hsame := (Text.sameName_left_congr hknown name).trans (Text.sameName_right_congr hname _)
    rw [findIn_cons, findIn_cons, hsame]
    split
    · exact .some hproperty
    · exact ih

/-- Slots of distinct names in which the same is found under every name pair up, once the first are
brought into the order of the second. -/
theorem exists_perm_forall₂ (hdistinct : Distinct slots) (hdistinct' : Distinct slots')
    (h : ∀ name, Option.Rel Property.Alike (findIn name slots) (findIn name slots')) :
    ∃ ordered, slots.Perm ordered ∧ List.Forall₂ Slot.Alike ordered slots' := by
  induction slots' generalizing slots with
  | nil =>
    cases slots with
    | nil => exact ⟨[], .refl [], .nil⟩
    | cons slot rest =>
      have hfirst := h slot.1
      rw [findIn_cons, if_pos (Text.sameName_self slot.1)] at hfirst
      cases hfirst
  | cons slot' rest' ih =>
    obtain ⟨name', property'⟩ := slot'
    obtain ⟨hfirst', hrest'⟩ := List.pairwise_cons.1 hdistinct'
    -- the slot that stands under the first name is brought to the front
    obtain ⟨property, hfound, hproperty⟩ : ∃ property,
        findIn name' slots = some property ∧ property.Alike property' := by
      have hfirst := h name'
      rw [findIn_cons, if_pos (Text.sameName_self name')] at hfirst
      generalize findIn name' slots = found at hfirst ⊢
      cases hfirst with
      | some hproperty => exact ⟨_, rfl, hproperty⟩
    obtain ⟨name, hmem, hname⟩ := exists_mem_of_findIn hfound
    obtain ⟨before, after, rfl⟩ := List.append_of_mem hmem
    have hfront : (before ++ (name, property) :: after).Perm
        ((name, property) :: (before ++ after)) := List.perm_middle
    obtain ⟨hfirst, hrest⟩ : (∀ slot ∈ before ++ after, Text.sameName name slot.1 = false) ∧
        Distinct (before ++ after) :=
      List.pairwise_cons.1 (hdistinct.perm hfront fun {a b} hab => by rwa [Text.sameName_comm])
    -- behind it nothing more is found under its name, and everything else as before
    have hbehind (other : String) :
        Option.Rel Property.Alike (findIn other (before ++ after)) (findIn other rest') := by
      have hother := h other
      rw [findIn_perm hfront hdistinct, findIn_cons, findIn_cons,
        Text.sameName_left_congr hname] at hother
      cases hsame : Text.sameName name' other with
      | false =>
        rw [hsame] at hother
        exact hother
      | true =>
        rw [findIn_eq_none hfirst (Text.sameName_trans hname hsame), findIn_eq_none hfirst' hsame]
        exact .none
    obtain ⟨ordered, hperm, hpairs⟩ := ih hrest hrest' hbehind
    exact ⟨(name, property) :: ordered, hfront.trans (hperm.cons _),
      .cons (.mk hname hproperty) hpairs⟩

/-- Alike instances have alike properties under the same name. -/
theorem Alike.find? {object object' : Instance} {name' : String} (h : object.Alike object')
    (hdistinct : Distinct object.properties) (hname : Text.sameName name name' = true) :
    Option.Rel Property.Alike (object.find? name) (object'.find? name') := by
  obtain ⟨hperm, hpairs⟩ := h
  show Option.Rel _ (findIn name object.properties) _
  rw [findIn_perm hperm hdistinct]
  exact findIn_forall₂ hpairs hname

/-- Instances of distinct names are alike just if they have alike properties under every name. -/
theorem alike_iff {object object' : Instance} (hdistinct : Distinct object.properties)
    (hdistinct' : Distinct object'.properties) : object.Alike object' ↔
      ∀ name, Option.Rel Property.Alike (object.find? name) (object'.find? name) := by
  constructor
  · intro h name
    exact h.find? hdistinct (Text.sameName_self name)
  · intro h
    obtain ⟨ordered, hperm, hpairs⟩ := exists_perm_forall₂ hdistinct hdistinct' h
    exact .mk hperm hpairs

end Instance

section Walk

variable {object object' : Instance} {name name' : String}

theorem Instance.Alike.value? (h : object.Alike object') (hbuilt : object.Built)
    (hname : Text.sameName name name' = true) : object.value? name = object'.value? name' := by
  have hfound := h.find? hbuilt.distinct hname
  unfold Instance.value?
  generalize object.find? name = found, object'.find? name' = found' at hfound ⊢
  cases hfound with
  | none => rfl
  | some hproperty => cases hproperty <;> rfl

theorem Instance.Alike.embedded? (h : object.Alike object') (hbuilt : object.Built)
    (hname : Text.sameName name name' = true) (index : Option Nat) :
    Option.Rel Instance.Alike (object.embedded? name index) (object'.embedded? name' index) := by
  have hfound := h.find? hbuilt.distinct hname
  unfold Instance.embedded?
  generalize object.find? name = found, object'.find? name' = found' at hfound ⊢
  cases hfound with
  | none => exact .none
  | some hproperty =>
    cases hproperty with
    | value v => exact .none
    | embedded hobject =>
      cases index with
      | none => exact .some hobject
      | some index => exact .none
    | embeddedArray hobjects =>
      cases index with
      | none => exact .none
      | some index => exact getElem?_forall₂ hobjects index

theorem Instance.Built.of_embedded? {inner : Instance} {index : Option Nat} (hbuilt : object.Built)
    (h : object.embedded? name index = some inner) : inner.Built := by
  obtain ⟨-, hfind⟩ | ⟨place, objects, -, hfind, hplace⟩ := Instance.embedded?_eq_some_iff.1 h
  · exact hbuilt.of_mem_objects hfind (List.mem_singleton_self inner)
  · exact hbuilt.of_mem_objects hfind (List.mem_of_getElem? hplace)

/-! ## References in another spelling -/

mutual

/-- An operand, or one that refers to the same properties in another spelling. -/
inductive Value.Respelled : Value → Value → Prop
  | same (v : Value) : Value.Respelled v v
  | property {ref ref' : PropertyRef} :
    PropertyRef.Respelled ref ref' → Value.Respelled (.property ref) (.property ref')

/-- The same names, in any case, and the same indices, at each link of the chain. -/
inductive PropertyRef.Respelled : PropertyRef → PropertyRef → Prop
  | mk {name name' : String} {index : Option UInt64} {chain chain' : List Value} :
    Text.sameName name name' = true → List.Forall₂ Value.Respelled chain chain' →
      PropertyRef.Respelled ⟨name, index, chain⟩ ⟨name', index, chain'⟩

end

theorem PropertyRef.Respelled.refl (ref : PropertyRef) : ref.Respelled ref := by
  obtain ⟨name, index, chain⟩ := ref
  exact .mk (Text.sameName_self name) (List.forall₂_same.2 fun link _ => .same link)

theorem Value.Respelled.property? {link link' : Value} (h : link.Respelled link') :
    Option.Rel PropertyRef.Respelled link.property? link'.property? := by
  cases h with
  | same =>
    cases link with
    | property ref => exact .some (.refl ref)
    | _ => exact .none
  | property href => exact .some href

/-! ## Walks -/

/-- A chain of links leads to the same value in alike instances. Of a reference on the way, its name
and its index are read. -/
theorem walk_alike {head head' : PropertyRef} {chain chain' : List Value}
    (hlinks : List.Forall₂ Value.Respelled chain chain') (hbuilt : object.Built)
    (halike : object.Alike object') (hname : Text.sameName head.name head'.name = true)
    (hindex : head.index = head'.index) :
    walk object head chain = walk object' head' chain' := by
  induction hlinks generalizing object object' head head' with
  | nil =>
    have hvalue : PropertySource.value? object head.name =
        PropertySource.value? object' head'.name := halike.value? hbuilt hname
    unfold walk lookUp
    rw [hvalue, hindex]
  | @cons link link' rest rest' hlink _ ih =>
    have hnext : Option.Rel Instance.Alike (follow object head) (follow object' head') := by
      unfold follow
      rw [← hindex]
      exact halike.embedded? hbuilt hname _
    have hinner (inner : Instance) (h : follow object head = some inner) : inner.Built :=
      hbuilt.of_embedded? h
    have hlink := hlink.property?
    unfold walk
    generalize follow object head = next, follow object' head' = next' at hnext hinner ⊢
    generalize link.property? = ref, link'.property? = ref' at hlink ⊢
    -- either both walks go on, in alike objects and through one link, or both end here
    cases hnext with
    | none => rfl
    | some hobjects =>
      cases hlink with
      | none => rfl
      | some href =>
        cases href with
        | mk hstep _ => exact ih (hinner _ rfl) hobjects hstep rfl

theorem PropertyRef.Respelled.resolve? {ref ref' : PropertyRef} (h : ref.Respelled ref')
    (hbuilt : object.Built) (halike : object.Alike object') :
    ref.resolve? object = ref'.resolve? object' := by
  obtain ⟨hname, hlinks⟩ := h
  exact walk_alike hlinks hbuilt halike hname rfl

theorem Value.Respelled.resolve {operand operand' : Value} (h : operand.Respelled operand')
    (hbuilt : object.Built) (halike : object.Alike object') :
    operand.resolve object = operand'.resolve object' := by
  have hproperty {ref ref' : PropertyRef} (href : ref.Respelled ref') :
      (Value.property ref).resolve object = (Value.property ref').resolve object' :=
    congrArg (fun value => value.getD .null) (href.resolve? hbuilt halike)
  cases h with
  | same =>
    cases operand with
    | property ref => exact hproperty (.refl ref)
    | _ => rfl
  | property href => exact hproperty href

end Walk

/-! ## Evaluations -/

/-- An evaluation sees of an instance that was built what it holds under names without case: two
programs with the same operations, whose references differ in the case of their names at most, come
to the same on alike instances, be it a verdict or an error, under any settings. -/
theorem evaluate_alike (settings : Settings) {program program' : Program}
    {object object' : Instance} (hbuilt : object.Built) (halike : object.Alike object')
    (hops : program.operations = program'.operations)
    (hoperands : List.Forall₂ Value.Respelled program.operands program'.operands) :
    evaluate settings program object = evaluate settings program' object' := by
  refine evaluate_congr hops ?_
  generalize program.operands = operands, program'.operands = operands' at hoperands
  induction hoperands with
  | nil => rfl
  | cons hoperand _ ih => rw [List.map_cons, List.map_cons, hoperand.resolve hbuilt halike, ih]

/-- A host with one volume, set up in another order, under other names and over other values. -/
theorem evaluate_alike_rebuilt :
    let disk := (Instance.ofClass "Disk").set "Size" (.value (.integer 7))
    let volume := ((Instance.ofClass "Volume").set "SIZE" (.value .null)).set "size"
      (.value (.integer 7))
    let host := ((Instance.ofClass "Host").set "Name" (.value (.string "a"))).set "Disks"
      (.embeddedArray [disk])
    let server := (((((Instance.ofClass "Server").set "DISKS" (.embeddedArray [volume])).set "Old"
      (.embedded disk)).set "name" (.embedded volume)).remove "OLD").1.set "NAME"
      (.value (.string "a"))
    let program : Program :=
      ⟨[.property ⟨"Disks", some 0, [.property (.ofName "Size")]⟩, .integer 5], [.compare .gt], []⟩
    let shouted : Program :=
      ⟨[.property ⟨"DISKS", some 0, [.property (.ofName "SIZE")]⟩, .integer 5], [.compare .gt], []⟩
    host.Built ∧ host.Alike server ∧ program.operations = shouted.operations ∧
      List.Forall₂ Value.Respelled program.operands shouted.operands ∧
      server.names = ["DISKS", "name"] ∧ evaluate .default shouted server = .ok true := by
  intro disk volume host server program shouted
  have hdisk : disk.Built := .set "Size" (.ofClass "Disk") nofun
  have hhost : host.Built :=
    .set "Disks" (.set "Name" (.ofClass "Host") nofun) (List.forall_mem_singleton.2 hdisk)
  have hvolume : disk.Alike volume :=
    .mk (.refl _) (.cons (.mk (by decide) (.value _)) .nil)
  have hserver : host.Alike server := by
    refine .mk (.swap _ _ []) (.cons (.mk (by decide) ?_) (.cons (.mk (by decide) ?_) .nil))
    · exact .embeddedArray (.cons hvolume .nil)
    · exact .value (.string "a")
  have hoperands : List.Forall₂ Value.Respelled program.operands shouted.operands := by
    have hsize : List.Forall₂ Value.Respelled [.property (.ofName "Size")]
        [.property (.ofName "SIZE")] := .cons (.property (.mk (by decide) .nil)) .nil
    exact .cons (.property (.mk (by decide) hsize)) (.cons (.same _) .nil)
  refine ⟨hhost, hserver, rfl, hoperands, ?_, ?_⟩
  · decide +kernel
  · have hsame : evaluate .default program host = evaluate .default shouted server :=
      evaluate_alike .default hhost hserver rfl hoperands
    exact hsame.symm.trans rfl

end InstanceFilter
