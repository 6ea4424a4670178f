/-
Qualifying a path. The path stands in its own namespace, or else in the default one as far as that
is more than slashes, and its class takes the name of the first class of the schema that is the
same, or keeps its own; host and keys stay. Both parts are settled by this: a declared name finds
the class that declared it, and the namespace of a qualified path is its own. So qualifying twice
changes nothing more, and paths that are the same qualify to paths that are the same.
-/
import InstanceFilter.Proofs.ObjectPath.Extensionality

namespace InstanceFilter.Schema

open ObjectPath (namespace?)

/-- The spelling of a class name in the schema, which is its own where no class has it. -/
def declaredName (schema : Schema) (name : String) : String :=
  ((schema.class? name).map ClassInfo.name).getD name

/-- The namespace that is meant where one or none is given. -/
def meantSpace (schema : Schema) (space : Option String) : Option String :=
  space.or (namespace? schema.defaultSpace)

variable {schema : Schema} {p q : ObjectPath} {a b name : String}

theorem qualify_eq (schema : Schema) (p : ObjectPath) : schema.qualify p =
    { p with
      space := schema.meantSpace p.space, className := schema.declaredName p.className } := by
  have hlocated : (if p.space.isNone then p.inNamespace schema.defaultSpace else p) =
      { p with space := schema.meantSpace p.space } := by
    obtain ⟨host, space, className, keys⟩ := p
    cases space with
    | some space => rfl
    | none =>
      simp only [Option.isNone_none, if_true, ObjectPath.inNamespace, meantSpace, Option.none_or]
      cases namespace? schema.defaultSpace <;> rfl
  unfold qualify declaredName
  simp only [hlocated]
  cases schema.class? p.className <;> rfl

/-! ## Class names -/

/-- A name finds the same class in any case of its letters. -/
theorem class?_congr (h : Text.sameName a b = true) : schema.class? a = schema.class? b := by
  unfold class?
  congr 1
  funext info
  exact Text.sameName_right_congr h info.name

/-- The first class of the schema with a name that is the same is the one that is found. -/
theorem class?_eq_some_iff {info : ClassInfo} : schema.class? name = some info ↔
    ∃ before after, schema.classes = before ++ info :: after ∧
      Text.sameName info.name name = true ∧
      ∀ earlier ∈ before, Text.sameName earlier.name name = false := by
  rw [class?, List.find?_eq_some_iff_append]
  simp only [Bool.not_eq_true']
  constructor
  · rintro ⟨hname, before, after, hsplit, hearlier⟩
    exact ⟨before, after, hsplit, hname, hearlier⟩
  · rintro ⟨before, after, hsplit, hname, hearlier⟩
    exact ⟨hname, before, after, hsplit, hearlier⟩

theorem class?_eq_none_iff : schema.class? name = none ↔
    ∀ info ∈ schema.classes, Text.sameName info.name name = false := by
  rw [class?, List.find?_eq_none]
  simp only [Bool.not_eq_true]

theorem declaredName_of_class? {info : ClassInfo} (h : schema.class? name = some info) :
    schema.declaredName name = info.name := by
  rw [declaredName, h]
  rfl

theorem declaredName_of_unknown (h : schema.class? name = none) :
    schema.declaredName name = name := by
  rw [declaredName, h]
  rfl

theorem sameName_declaredName (schema : Schema) (name : String) :
    Text.sameName (schema.declaredName name) name = true := by
  cases h : schema.class? name with
  | none => rw [declaredName_of_unknown h, Text.sameName_self]
  | some info =>
    rw [declaredName_of_class? h]
    obtain ⟨-, -, -, hname, -⟩ := class?_eq_some_iff.1 h
    exact hname

/-- What a declared name finds is the class that declared it. -/
theorem declaredName_declaredName (schema : Schema) (name : String) :
    schema.declaredName (schema.declaredName name) = schema.declaredName name := by
  have hclass : schema.class? (schema.declaredName name) = schema.class? name :=
    class?_congr (sameName_declaredName schema name)
  cases h : schema.class? name with
  | none => rw [declaredName_of_unknown h, declaredName_of_unknown h]
  | some info => rw [declaredName_of_class? (hclass.trans h), declaredName_of_class? h]

theorem sameName_declaredName_congr (h : Text.sameName a b = true) :
    Text.sameName (schema.declaredName a) (schema.declaredName b) = true := by
  have hb : Text.sameName b (schema.declaredName b) = true := by
    rw [Text.sameName_comm]
    exact sameName_declaredName schema b
  exact Text.sameName_trans (sameName_declaredName schema a) (Text.sameName_trans h hb)

/-! ## Qualified paths -/

theorem meantSpace_meantSpace (schema : Schema) (space : Option String) :
    schema.meantSpace (schema.meantSpace space) = schema.meantSpace space := by
  unfold meantSpace
  cases space with
  | some space => rfl
  | none => cases namespace? schema.defaultSpace <;> rfl

theorem meantSpace_of_ne_none {space : Option String} (h : space ≠ none) :
    schema.meantSpace space = space := by
  cases space with
  | some space => rfl
  | none => exact absurd rfl h

theorem rel_meantSpace {space space' : Option String}
    (h : Option.Rel (fun a b => Text.sameName a b = true) space space') :
    Option.Rel (fun a b => Text.sameName a b = true) (schema.meantSpace space)
      (schema.meantSpace space') := by
  cases h with
  | some h => exact .some h
  | none => exact Text.sameName?_iff_rel.1 (ObjectPath.sameName?_self _)

theorem qualify_qualify (schema : Schema) (p : ObjectPath) :
    schema.qualify (schema.qualify p) = schema.qualify p := by
  simp only [qualify_eq, meantSpace_meantSpace, declaredName_declaredName]

theorem same_qualify_of_located (h : p.space ≠ none) : (schema.qualify p).same p = true := by
  obtain ⟨hhost, hspace, -, hkeys⟩ := ObjectPath.same_iff_sameBindings.1 p.same_self
  rw [qualify_eq, meantSpace_of_ne_none h, ObjectPath.same_iff_sameBindings]
  exact ⟨hhost, hspace, sameName_declaredName schema p.className, hkeys⟩

theorem same_qualify_congr (h : p.same q = true) :
    (schema.qualify p).same (schema.qualify q) = true := by
  obtain ⟨hhost, hspace, hclass, hkeys⟩ := ObjectPath.same_iff_sameBindings.1 h
  rw [qualify_eq, qualify_eq, ObjectPath.same_iff_sameBindings]
  exact ⟨hhost, rel_meantSpace hspace, sameName_declaredName_congr hclass, hkeys⟩

/-- Qualifying brings a path to a form of its own. It changes a qualified path in nothing; it leaves
the host and the keys alone, and a path that has a namespace is the same as before; paths that are
the same qualify to paths that are the same. The class has the spelling of the first class of the
schema whose name is the same, and its own spelling where there is none. -/
theorem qualify_canonical (schema : Schema) (p : ObjectPath) :
    schema.qualify (schema.qualify p) = schema.qualify p ∧
    (schema.qualify p).host = p.host ∧ (schema.qualify p).keys = p.keys ∧
    (p.space ≠ none → (schema.qualify p).same p = true) ∧
    (∀ q, p.same q = true → (schema.qualify p).same (schema.qualify q) = true) ∧
    (∀ before info after, schema.classes = before ++ info :: after →
      Text.sameName info.name p.className = true →
      (∀ earlier ∈ before, Text.sameName earlier.name p.className = false) →
      (schema.qualify p).className = info.name) ∧
    ((∀ info ∈ schema.classes, Text.sameName info.name p.className = false) →
      (schema.qualify p).className = p.className) := by
  have hclass : (schema.qualify p).className = schema.declaredName p.className := by
    rw [qualify_eq]
  refine ⟨qualify_qualify schema p, by rw [qualify_eq], ObjectPath.keys_qualify schema p,
    same_qualify_of_located, fun q => same_qualify_congr,
    fun before info after hsplit hname hearlier => ?_, fun hunknown => ?_⟩
  · rw [hclass]
    exact declaredName_of_class? (class?_eq_some_iff.2 ⟨before, after, hsplit, hname, hearlier⟩)
  · rw [hclass]
    exact declaredName_of_unknown (class?_eq_none_iff.2 hunknown)

/-- Two classes of one name, under a default namespace of slashes only. -/
theorem qualify_canonical_disk :
    let schema : Schema := ⟨"//", [⟨"Disk", "root", ["ID"]⟩, ⟨"DISK", "root", []⟩]⟩
    let p : ObjectPath := ⟨none, some "Root", "disk", [⟨"id", .text "sda"⟩]⟩
    let q : ObjectPath := ⟨none, some "root", "DISK", [⟨"ID", .text "sda"⟩]⟩
    let bare : ObjectPath := .ofClass "Log"
    p.same q = true ∧ (schema.qualify p).className = "Disk" ∧ (schema.qualify p).same p = true ∧
      (schema.qualify p).same (schema.qualify q) = true ∧
      schema.qualify (schema.qualify bare) = schema.qualify bare ∧
      (schema.qualify bare).className = "Log" := by
  intro schema p q bare
  obtain ⟨-, -, -, hlocated, hsame, hfirst, -⟩ := qualify_canonical schema p
  obtain ⟨htwice, -, -, -, -, -, hunknown⟩ := qualify_canonical schema bare
  have hpq : p.same q = true := by cbv
  have hspace : p.space ≠ none := Option.some_ne_none "Root"
  refine ⟨hpq, ?_, hlocated hspace, hsame q hpq, htwice, hunknown (by decide)⟩
  exact hfirst [] ⟨"Disk", "root", ["ID"]⟩ [⟨"DISK", "root", []⟩] rfl (by decide)
    (List.forall_mem_nil _)

end InstanceFilter.Schema
