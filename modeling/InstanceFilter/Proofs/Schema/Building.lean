/-
What a built path is made of. Each requested key stands for one binding, under the name the class
declares for it; binding a key that is not bound yet adds its binding in the place of its name, and
a key that is bound is refused. So the keys of a built path are the requested ones, in the order of
their names, and no name occurs twice.
-/
import InstanceFilter.Proofs.Fallible
import InstanceFilter.Proofs.ObjectPath.Arranged
import InstanceFilter.Schema.Builder

namespace InstanceFilter

namespace ObjectPath

variable {path : ObjectPath} {name : String}

/-! ## The place of a path -/

theorem inNamespace_ofClass (className text : String) :
    (ofClass className).inNamespace text = ⟨none, namespace? text, className, []⟩ := by
  unfold inNamespace ofClass
  cases namespace? text <;> rfl

theorem atLocation_ofClass_eq_ok_iff {className host text : String} :
    (ofClass className).atLocation host text = .ok path ↔ namespace? text ≠ none ∧
      path = ⟨some host, namespace? text, className, []⟩ :=
  atLocation_eq_ok_iff

/-! ## Binding a key that is not bound -/

theorem keys_withKey (h : path.key? name = none) (value : KeyValue) :
    (path.withKey name value).keys = sortBindings (path.keys ++ [⟨name, value⟩]) := by
  have hothers : path.keys.filter (fun b => !Text.sameName b.name name) = path.keys := by
    refine List.filter_eq_self.2 fun b hb => ?_
    rw [key?_eq_none_iff.1 h b hb]
    rfl
  rw [withKey, hothers]

end ObjectPath

namespace Schema

variable {schema : Schema} {info : ClassInfo} {request : PathRequest} {p p' located : ObjectPath}

/-! ## Steps -/

/-- The binding that a requested key stands for, if the class has the key and the value can be
bound. -/
def binding? (info : ClassInfo) (key : String × Value) : Option KeyBinding := do
  let declared ← info.keyProperty? key.1
  let value ← key.2.keyValue?
  return ⟨declared, value⟩

theorem binding?_eq_some_iff {key : String × Value} {b : KeyBinding} :
    binding? info key = some b ↔
      info.keyProperty? key.1 = some b.name ∧ key.2.keyValue? = some b.value := by
  obtain ⟨name, value⟩ := b
  cases hname : info.keyProperty? key.1 <;> cases hvalue : key.2.keyValue? <;>
    simp [binding?, hname, hvalue]

theorem bindKey_eq_ok_iff {key : String × Value} :
    bindKey info p key = .ok p' ↔
      ∃ b, binding? info key = some b ∧ p.key? b.name = none ∧ p' = p.withKey b.name b.value := by
  simp only [binding?_eq_some_iff]
  unfold bindKey
  cases hname : info.keyProperty? key.1 with
  | none => exact ⟨nofun, fun ⟨_, ⟨h, _⟩, _⟩ => nomatch h⟩
  | some declared =>
    simp only [check_eq_ok_iff, Bool.not_eq_true, Option.isSome_eq_false_iff,
      Option.isNone_iff_eq_none]
    cases hvalue : key.2.keyValue? with
    | none => exact ⟨nofun, fun ⟨_, ⟨_, h⟩, _⟩ => nomatch h⟩
    | some value =>
      constructor
      · rintro ⟨hnew, h⟩
        cases h
        exact ⟨⟨declared, value⟩, ⟨rfl, rfl⟩, hnew, rfl⟩
      · rintro ⟨⟨_, _⟩, ⟨h, h'⟩, hnew, rfl⟩
        cases h
        cases h'
        exact ⟨hnew, rfl⟩

/-! ## Runs -/

/-- The path has the requested keys, in ascending order, and is otherwise as it was located. -/
structure Bound (info : ClassInfo) (located : ObjectPath) (keys : List (String × Value))
    (p : ObjectPath) : Prop where
  elsewhere : { p with keys := [] } = { located with keys := [] }
  ascending : p.keys.Pairwise KeyBinding.Before
  requested : (p.keys.map some).Perm (keys.map (binding? info))

theorem Bound.bindKey {keys : List (String × Value)} {key : String × Value}
    (h : Bound info located keys p) (hbind : bindKey info p key = .ok p') :
    Bound info located (keys ++ [key]) p' := by
  obtain ⟨⟨name, value⟩, hb, hnew, rfl⟩ := bindKey_eq_ok_iff.1 hbind
  refine ⟨h.elsewhere, ObjectPath.ascending_withKey h.ascending name value, ?_⟩
  rw [ObjectPath.keys_withKey hnew, List.map_append, List.map_singleton, hb]
  refine ((ObjectPath.perm_sortBindings _).map some).trans ?_
  rw [List.map_append, List.map_singleton]
  exact h.requested.append_right [some ⟨name, value⟩]

theorem Bound.foldlM {done keys : List (String × Value)} (h : Bound info located done p)
    (hbind : keys.foldlM (Schema.bindKey info) p = .ok p') :
    Bound info located (done ++ keys) p' := by
  -- by induction on the keys that are left, from any path that has those done before them
  induction keys generalizing done p with
  | nil =>
    cases hbind
    rwa [List.append_nil]
  | cons key keys ih =>
    rw [List.foldlM_cons, bind_eq_ok_iff] at hbind
    obtain ⟨next, hnext, hrest⟩ := hbind
    rw [List.append_cons]
    exact ih (h.bindKey hnext) hrest

theorem Bound.mem_keys_iff {keys : List (String × Value)} (h : Bound info located keys p)
    {b : KeyBinding} : b ∈ p.keys ↔ ∃ key ∈ keys, binding? info key = some b := by
  rw [← List.mem_map, ← h.requested.mem_iff]
  simp

/-- Each requested key has been bound. -/
theorem Bound.exists_binding {keys : List (String × Value)} (h : Bound info located keys p)
    {key : String × Value} (hkey : key ∈ keys) :
    ∃ b ∈ p.keys, binding? info key = some b := by
  have hmem := h.requested.mem_iff.2 (List.mem_map_of_mem hkey)
  obtain ⟨b, hb, heq⟩ := List.mem_map.1 hmem
  exact ⟨b, hb, heq.symm⟩

/-! ## Builds -/

/-- The namespace that a path is built in, if any is left without the slashes before it. -/
def space? (schema : Schema) (request : PathRequest) : Option String :=
  ObjectPath.namespace? (request.space.getD schema.defaultSpace)

theorem locate_eq_ok_iff :
    schema.locate info request = .ok located ↔
      located = ⟨request.host, schema.space? request, info.name, []⟩ ∧
        (request.host ≠ none → schema.space? request ≠ none) := by
  obtain ⟨className, host, space, keys⟩ := request
  cases host with
  | none =>
    show Except.ok ((ObjectPath.ofClass info.name).inNamespace _) = .ok located ↔ _
    rw [ObjectPath.inNamespace_ofClass]
    exact ⟨fun h => ⟨(Except.ok.inj h).symm, fun h => absurd rfl h⟩, fun h => congrArg _ h.1.symm⟩
  | some host =>
    show ((ObjectPath.ofClass info.name).atLocation host _).mapError _ = .ok located ↔ _
    rw [mapError_eq_ok_iff, ObjectPath.atLocation_ofClass_eq_ok_iff]
    exact ⟨fun h => ⟨h.2, fun _ => h.1⟩, fun h => ⟨h.2 nofun, h.1⟩⟩

/-- A path is built when the class is known, each key can be bound and none is missing. -/
theorem build_eq_ok_iff :
    build schema request = .ok p ↔
      ∃ info located, schema.class? request.className = some info ∧
        schema.locate info request = .ok located ∧
        request.keys.foldlM (bindKey info) located = .ok p ∧
        ∀ key ∈ info.keyProperties, p.key? key ≠ none := by
  unfold build
  cases hinfo : schema.class? request.className with
  | none => exact ⟨nofun, fun ⟨_, _, h, _⟩ => nomatch h⟩
  | some info =>
    constructor
    · intro h
      obtain ⟨located, hlocated, h⟩ := bind_eq_ok_iff.1 h
      obtain ⟨q, hkeys, hcomplete⟩ := bind_eq_ok_iff.1 h
      cases hfind : info.keyProperties.find? fun key => (q.key? key).isNone with
      | some missing =>
        rw [hfind] at hcomplete
        cases hcomplete
      | none =>
        rw [hfind] at hcomplete
        obtain rfl : q = p := Except.ok.inj hcomplete
        refine ⟨info, located, rfl, hlocated, hkeys, fun key hkey hnone => ?_⟩
        exact List.find?_eq_none.1 hfind key hkey (Option.isNone_iff_eq_none.2 hnone)
    · rintro ⟨info', located, hinfo', hlocated, hkeys, hcomplete⟩
      cases hinfo'
      have hfind : (info.keyProperties.find? fun key => (p.key? key).isNone) = none :=
        List.find?_eq_none.2 fun key hkey hnone =>
          hcomplete key hkey (Option.isNone_iff_eq_none.1 hnone)
      refine bind_eq_ok_iff.2 ⟨located, hlocated, bind_eq_ok_iff.2 ⟨p, hkeys, ?_⟩⟩
      rw [hfind]
      rfl

theorem bound_of_foldlM {keys : List (String × Value)} (hkeyless : located.keys = [])
    (h : keys.foldlM (bindKey info) located = .ok p) : Bound info located keys p := by
  have hstart : Bound info located [] located := by
    refine ⟨rfl, ?_, ?_⟩
    · rw [hkeyless]
      exact .nil
    · rw [hkeyless]
      exact .nil
  exact hstart.foldlM h

/-- A path is built of a class that the schema knows, at the place asked for, and of the keys asked
for. -/
theorem bound_of_build (h : build schema request = .ok p) :
    ∃ info ∈ schema.classes, (request.host ≠ none → schema.space? request ≠ none) ∧
      Bound info ⟨request.host, schema.space? request, info.name, []⟩ request.keys p := by
  obtain ⟨info, located, hinfo, hlocated, hkeys, -⟩ := build_eq_ok_iff.1 h
  obtain ⟨rfl, hspace⟩ := locate_eq_ok_iff.1 hlocated
  exact ⟨info, List.mem_of_find?_eq_some hinfo, hspace, bound_of_foldlM rfl hkeys⟩

/-! ## Well-spelled builds -/

/-- The names of the classes and of their keys are identifiers. -/
structure Spelled (schema : Schema) : Prop where
  classes_identifiers : ∀ info ∈ schema.classes, Text.isIdentifier info.name.toList = true
  keys_identifiers : ∀ info ∈ schema.classes, ∀ key ∈ info.keyProperties,
    Text.isIdentifier key.toList = true

/-- The host that is asked for has no slash, and the namespace, without the slashes before it, no
colon, no point and no blank in front. -/
structure Placed (schema : Schema) (request : PathRequest) : Prop where
  host_slashless : ∀ host, request.host = some host → '/' ∉ host.toList
  space_colonless : ∀ space, schema.space? request = some space → ':' ∉ space.toList
  space_pointless : ∀ space, schema.space? request = some space → '.' ∉ space.toList
  space_inked : ∀ space, schema.space? request = some space →
    ∀ c ∈ space.toList.head?, Text.isBlank c = false

/-- A path that is built of well-spelled names is well spelled. -/
theorem spelled_of_build (hs : schema.Spelled) (hr : schema.Placed request)
    (h : build schema request = .ok p) : p.Spelled ∧ p.Anchored := by
  obtain ⟨info, hinfo, hlocated, hbound⟩ := bound_of_build h
  have hhost : p.host = request.host := congrArg ObjectPath.host hbound.elsewhere
  have hspace : p.space = schema.space? request := congrArg ObjectPath.space hbound.elsewhere
  have hclass : p.className = info.name := congrArg ObjectPath.className hbound.elsewhere
  have hlocated : ObjectPath.Located request.host (schema.space? request) :=
    ObjectPath.located_of_namespace? hlocated
  have hhead : ObjectPath.HeadSpelled p.host p.space p.className := by
    rw [hhost, hspace, hclass]
    exact {
      className_identifier := hs.classes_identifiers info hinfo
      host_slashless := hr.host_slashless
      host_located := hlocated.host_located
      space_nonempty := hlocated.space_nonempty
      space_unrooted := hlocated.space_unrooted
      space_colonless := hr.space_colonless
      space_pointless := hr.space_pointless }
  refine ⟨⟨hhead, fun b hb => ?_, hbound.ascending⟩, fun _ s hs => hr.space_inked s (hspace ▸ hs)⟩
  obtain ⟨key, -, hkey⟩ := hbound.mem_keys_iff.1 hb
  have hdeclared := List.mem_of_find?_eq_some (binding?_eq_some_iff.1 hkey).1
  exact hs.keys_identifiers info hinfo b.name hdeclared

end Schema

end InstanceFilter
