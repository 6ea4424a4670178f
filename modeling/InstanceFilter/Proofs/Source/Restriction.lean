/-
What may be left out of a source. At the top level of a source a program reads the properties that
its references start with, and no others: the further links of a chain are read in embedded objects.
So if a program lists those names, in any case of their letters, every property that it does not
list may be left out, and the program comes to the same verdict or the same error. This holds of
instances, where a name is found in any case, and of records, where it must match letter by letter.
-/
import InstanceFilter.Proofs.Evaluation.Substitution

namespace InstanceFilter

/-! ## Restricted sources -/

/-- The instance with those of its own properties whose names are kept. Objects embedded in them are
left whole. -/
def Instance.restrict (object : Instance) (keep : String → Bool) : Instance :=
  { object with properties := object.properties.filter fun (name, _) => keep name }

/-- The record with those of its values whose names are kept. -/
def Record.restrict (record : Record) (keep : String → Bool) : Record :=
  ⟨record.entries.filter fun (name, _) => keep name⟩

/-- Whether names are kept does not depend on the case of their letters. -/
def IgnoresCase (keep : String → Bool) : Prop :=
  ∀ a b, Text.sameName a b = true → keep a = keep b

theorem Program.knowsProperty_ignoresCase (program : Program) :
    IgnoresCase program.knowsProperty := by
  intro a b hab
  unfold knowsProperty
  congr 1
  funext known
  exact Text.sameName_right_congr hab known

/-- What is sought among the kept entries is found as before, if what is sought is kept. -/
theorem find?_filter_of_agrees {α : Type} {keep sought : α → Bool} {kept : Bool}
    (h : ∀ a, sought a = true → keep a = kept) (entries : List α) :
    (entries.filter keep).find? sought = if kept then entries.find? sought else none := by
  rw [List.find?_filter]
  cases kept with
  | false =>
    refine List.find?_eq_none.2 fun a _ => ?_
    by_cases ha : sought a = true <;> simp [ha, h]
  | true =>
    congr 1
    funext a
    by_cases ha : sought a = true <;> simp [ha, h]

/-- A restricted instance has the properties that are kept, under every spelling of their names, and
none besides. -/
theorem Instance.find?_restrict {keep : String → Bool} (hkeep : IgnoresCase keep)
    (object : Instance) (name : String) :
    (object.restrict keep).find? name = if keep name then object.find? name else none := by
  have hslot (slot : String × Property) (h : Text.sameName slot.1 name = true) :
      keep slot.1 = keep name := hkeep slot.1 name h
  unfold restrict find?
  rw [find?_filter_of_agrees hslot]
  split <;> rfl

theorem Record.get?_restrict (keep : String → Bool) (record : Record) (name : String) :
    (record.restrict keep).get? name = if keep name then record.get? name else none := by
  have hentry (entry : String × Value) (h : (entry.1 == name) = true) :
      keep entry.1 = keep name := congrArg keep (by simpa using h)
  unfold restrict get?
  rw [find?_filter_of_agrees hentry]
  split <;> rfl

/-! ## What references read at the top level -/

section Resolve

variable {σ : Type} [PropertySource σ] {source source' : σ}

/-- Where a reference leads is decided by what stands under the name that it starts with. -/
theorem PropertyRef.resolve?_congr {ref : PropertyRef}
    (hvalue : PropertySource.value? source ref.name = PropertySource.value? source' ref.name)
    (hembedded : ∀ index, PropertySource.embedded? source ref.name index =
      PropertySource.embedded? source' ref.name index) :
    ref.resolve? source = ref.resolve? source' := by
  unfold resolve?
  cases ref.chain with
  | nil =>
    unfold walk lookUp
    rw [hvalue]
  | cons link rest =>
    unfold walk follow
    rw [hembedded]

/-- Sources that have the same under the names that the references of a program start with are the
same to the program. -/
theorem evaluate_eq_of_top {settings : Settings} {program : Program}
    (hvalue : ∀ ref, .property ref ∈ program.operands →
      PropertySource.value? source ref.name = PropertySource.value? source' ref.name)
    (hembedded : ∀ ref, .property ref ∈ program.operands → ∀ index,
      PropertySource.embedded? source ref.name index =
        PropertySource.embedded? source' ref.name index) :
    evaluate settings program source = evaluate settings program source' := by
  refine evaluate_eq_of_resolve_eq fun operand hmem => ?_
  cases operand with
  | property ref =>
    have hresolve := PropertyRef.resolve?_congr (hvalue ref hmem) (hembedded ref hmem)
    exact congrArg (Option.getD · .null) hresolve
  | _ => rfl

end Resolve

/-! ## Leaving properties out -/

/-- A program that lists the names which its references start with comes to the same on a source
from which all that it does not list has been left out. -/
theorem evaluate_restrict (settings : Settings) {program : Program}
    (h : ∀ ref, .property ref ∈ program.operands → program.knowsProperty ref.name = true) :
    (∀ object : Instance, evaluate settings program (object.restrict program.knowsProperty) =
      evaluate settings program object) ∧
    ∀ record : Record, evaluate settings program (record.restrict program.knowsProperty) =
      evaluate settings program record := by
  constructor
  · intro object
    have hfind (ref : PropertyRef) (hmem : .property ref ∈ program.operands) :
        (object.restrict program.knowsProperty).find? ref.name = object.find? ref.name := by
      rw [Instance.find?_restrict program.knowsProperty_ignoresCase, if_pos (h ref hmem)]
    refine evaluate_eq_of_top (fun ref hmem => ?_) fun ref hmem index => ?_
    · show Instance.value? _ _ = Instance.value? _ _
      unfold Instance.value?
      rw [hfind ref hmem]
    · show Instance.embedded? _ _ _ = Instance.embedded? _ _ _
      unfold Instance.embedded?
      rw [hfind ref hmem]
  · intro record
    refine evaluate_eq_of_top (fun ref hmem => ?_) fun _ _ _ => rfl
    show Record.get? _ _ = Record.get? _ _
    rw [Record.get?_restrict, if_pos (h ref hmem)]

/-- The name that a chain starts with is listed; the name of its last link need not be. -/
theorem evaluate_restrict_chain :
    let disk : Instance := ⟨"Disk", [("Size", .value (.integer 7))]⟩
    let host : Instance := ⟨"Host", [("Size", .value (.integer 1)), ("Disk", .embedded disk)]⟩
    let program : Program :=
      ⟨[.property ⟨"DISK", none, [.property (.ofName "Size")]⟩, .integer 5], [.compare .gt],
        ["disk"]⟩
    (∀ ref, .property ref ∈ program.operands → program.knowsProperty ref.name = true) ∧
      host.restrict program.knowsProperty = ⟨"Host", [("Disk", .embedded disk)]⟩ ∧
      evaluate .default program (host.restrict program.knowsProperty) = .ok true := by
  intro disk host program
  have hlisted : ∀ ref, .property ref ∈ program.operands →
      program.knowsProperty ref.name = true := by
    intro ref hmem
    obtain h | h := List.mem_cons.1 hmem
    · cases h
      decide
    · cases List.mem_singleton.1 h
  refine ⟨hlisted, rfl, ?_⟩
  rw [(evaluate_restrict .default hlisted).1 host]
  rfl

end InstanceFilter
