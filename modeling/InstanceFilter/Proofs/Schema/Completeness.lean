/-
The requests that can be met. A path is built exactly when the class is known, a host comes with a
namespace, and the keys asked for are the key properties of the class, each once and with a scalar
that can be bound. What is built then depends on which keys were asked for and not on their order:
it has one binding for each key property, in its declared spelling.
-/
import InstanceFilter.Proofs.ObjectPath.Grammar
import InstanceFilter.Proofs.Schema.Building
import Mathlib.Data.List.TakeWhile

namespace InstanceFilter

/-- A scalar and the key value that it is bound as; a date-time is bound as its text. -/
inductive Value.BindsAs : Value → KeyValue → Prop
  | integer (n : Int64) : BindsAs (.integer n) (.integer (.ofInt64 n))
  | boolean (b : Bool) : BindsAs (.boolean b) (.boolean b)
  | string (s : String) : BindsAs (.string s) (.text s)
  | dateTime (d : DateTime) : BindsAs (.dateTime d) (.text d.toText)
  | reference (path : ObjectPath) : BindsAs (.reference path) (.reference path)

theorem Value.bindsAs_iff {v : Value} {bound : KeyValue} :
    v.BindsAs bound ↔ v.keyValue? = some bound := by
  constructor
  · intro h
    cases h <;> rfl
  · intro h
    cases v <;> cases h <;> constructor

/-! ## Namespaces and lookups -/

namespace ObjectPath

variable {p : ObjectPath} {name : String}

/-- There is no namespace where there is nothing but slashes. -/
theorem namespace?_eq_none_iff {text : String} : namespace? text = none ↔
    ∀ c ∈ text.toList, c = '/' := by
  have hslashes : text.toList.dropWhile (· == '/') = [] ↔ ∀ c ∈ text.toList, c = '/' := by
    simp [List.dropWhile_eq_nil_iff]
  rw [← hslashes]
  unfold namespace?
  cases text.toList.dropWhile (· == '/') with
  | nil => exact iff_of_true rfl rfl
  | cons c rest => exact iff_of_false nofun nofun

theorem namespace?_of_slashes {text rest : String} {n : Nat}
    (htext : text.toList = List.replicate n '/' ++ rest.toList)
    (hrest : rest.toList.head? ≠ some '/') :
    ObjectPath.namespace? text = if rest = "" then none else some rest := by
  rw [← namespace?_eq hrest, ← String.ofList_toList (s := text), htext, namespace?_slashes,
    String.ofList_toList]

/-- A key is looked up under any spelling of its name. -/
theorem key?_congr {name' : String} (h : Text.sameName name name' = true) :
    p.key? name = p.key? name' := by
  unfold key?
  congr 2
  funext b
  exact Text.sameName_right_congr h b.name

theorem key?_withKey_eq_none_iff (hkeys : p.keys.Pairwise KeyBinding.Before) {value : KeyValue}
    {other : String} : (p.withKey name value).key? other = none ↔
      Text.sameName other name = false ∧ p.key? other = none := by
  rw [key?_withKey hkeys]
  cases Text.sameName other name <;> simp

end ObjectPath

namespace Schema

variable {schema : Schema} {info : ClassInfo} {request : PathRequest} {p q : ObjectPath}

/-! ## Requests that are complete -/

/-- A request that can be met with a class: a host comes with a namespace that has more in it than
slashes, and the keys are those of the class, each once, with values that can be bound. -/
structure Complete (schema : Schema) (request : PathRequest) (info : ClassInfo) : Prop where
  host_located : request.host ≠ none →
    ∃ c ∈ (request.space.getD schema.defaultSpace).toList, c ≠ '/'
  keys_declared : ∀ key ∈ request.keys, ∃ declared ∈ info.keyProperties,
    Text.sameName declared key.1 = true
  keys_distinct : request.keys.Pairwise fun a b => Text.sameName a.1 b.1 = false
  keys_supplied : ∀ declared ∈ info.keyProperties, ∃ key ∈ request.keys,
    Text.sameName declared key.1 = true
  values_bindable : ∀ key ∈ request.keys, ∃ bound, key.2.BindsAs bound

/-- The path of a class that a request asks for: it stands at the host and in the namespace, if any
is left without its slashes, and binds each key property once, in the spelling that the class first
declares it in, to the value that is given for it. -/
structure Built (schema : Schema) (request : PathRequest) (info : ClassInfo) (p : ObjectPath) :
    Prop where
  host : p.host = request.host
  space : ∃ n rest, (request.space.getD schema.defaultSpace).toList =
      List.replicate n '/' ++ rest.toList ∧ rest.toList.head? ≠ some '/' ∧
      p.space = if rest = "" then none else some rest
  className : p.className = info.name
  keys_ascending : p.keys.Pairwise KeyBinding.Before
  mem_keys : ∀ b, b ∈ p.keys ↔ info.keyProperty? b.name = some b.name ∧
    ∃ key ∈ request.keys, Text.sameName b.name key.1 = true ∧ key.2.BindsAs b.value
  bound_once : ∀ declared ∈ info.keyProperties,
    ∃! b, b ∈ p.keys ∧ Text.sameName b.name declared = true

/-! ## Declared keys -/

/-- A key property is found under any spelling of its name, in the spelling declared first. -/
theorem keyProperty?_eq_some_iff {name declared : String} :
    info.keyProperty? name = some declared ↔
      info.keyProperty? declared = some declared ∧ Text.sameName declared name = true := by
  have hcongr (h : Text.sameName declared name = true) :
      info.keyProperty? declared = info.keyProperty? name := by
    unfold ClassInfo.keyProperty?
    congr 1
    funext key
    exact Text.sameName_right_congr h key
  constructor
  · intro h
    have hname : Text.sameName declared name = true :=
      List.find?_some (p := fun key => Text.sameName key name) h
    exact ⟨(hcongr hname).trans h, hname⟩
  · rintro ⟨h, hname⟩
    exact (hcongr hname).symm.trans h

theorem exists_keyProperty?_iff {name : String} :
    (∃ declared, info.keyProperty? name = some declared) ↔
      ∃ declared ∈ info.keyProperties, Text.sameName declared name = true := by
  rw [← Option.isSome_iff_exists, ClassInfo.keyProperty?, List.find?_isSome]

/-! ## Keys that can be bound -/

theorem binding?_eq_some_iff_declared {key : String × Value} {b : KeyBinding} :
    binding? info key = some b ↔ info.keyProperty? b.name = some b.name ∧
      Text.sameName b.name key.1 = true ∧ key.2.BindsAs b.value := by
  rw [binding?_eq_some_iff, keyProperty?_eq_some_iff, Value.bindsAs_iff, and_assoc]

theorem exists_binding?_iff {key : String × Value} :
    (∃ b, binding? info key = some b) ↔
      (∃ declared ∈ info.keyProperties, Text.sameName declared key.1 = true) ∧
        ∃ bound, key.2.BindsAs bound := by
  rw [← exists_keyProperty?_iff]
  simp only [binding?_eq_some_iff, Value.bindsAs_iff]
  constructor
  · rintro ⟨b, hname, hvalue⟩
    exact ⟨⟨_, hname⟩, _, hvalue⟩
  · rintro ⟨⟨declared, hname⟩, bound, hvalue⟩
    exact ⟨⟨declared, bound⟩, hname, hvalue⟩

/-- Keys are bound one after the other without a fault when each can be bound, no two have one name
and none is bound before. -/
theorem exists_foldlM_iff {keys : List (String × Value)} (hp : p.keys.Pairwise KeyBinding.Before) :
    (∃ p', keys.foldlM (bindKey info) p = .ok p') ↔
      (∀ key ∈ keys, ∃ b, binding? info key = some b) ∧
      (keys.Pairwise fun a b => Text.sameName a.1 b.1 = false) ∧
      ∀ key ∈ keys, p.key? key.1 = none := by
  -- by induction on the keys that are left, from any path that has some bound already
  induction keys generalizing p with
  | nil => exact iff_of_true ⟨p, rfl⟩ ⟨nofun, .nil, nofun⟩
  | cons key rest ih =>
    rw [List.forall_mem_cons, List.forall_mem_cons, List.pairwise_cons]
    -- what is free once the key is bound was free and has another name
    have hfree {b : KeyBinding} (hb : binding? info key = some b) (other : String × Value) :
        (p.withKey b.name b.value).key? other.1 = none ↔
          Text.sameName key.1 other.1 = false ∧ p.key? other.1 = none := by
      have hname := (binding?_eq_some_iff_declared.1 hb).2.1
      rw [ObjectPath.key?_withKey_eq_none_iff hp, Text.sameName_comm,
        Text.sameName_left_congr hname]
    constructor
    · rintro ⟨p', h⟩
      rw [List.foldlM_cons] at h
      obtain ⟨next, hnext, hrest⟩ := bind_eq_ok_iff.1 h
      obtain ⟨b, hb, hnew, rfl⟩ := bindKey_eq_ok_iff.1 hnext
      obtain ⟨hbindings, hdistinct, hothers⟩ :=
        (ih (ObjectPath.ascending_withKey hp b.name b.value)).1 ⟨p', hrest⟩
      have hkey : p.key? key.1 = none := by
        rwa [← ObjectPath.key?_congr (binding?_eq_some_iff_declared.1 hb).2.1]
      exact ⟨⟨⟨b, hb⟩, hbindings⟩,
        ⟨fun other h => ((hfree hb other).1 (hothers other h)).1, hdistinct⟩,
        hkey, fun other h => ((hfree hb other).1 (hothers other h)).2⟩
    · rintro ⟨⟨⟨b, hb⟩, hbindings⟩, ⟨hnames, hdistinct⟩, hkey, hothers⟩
      have hnew : p.key? b.name = none := by
        rwa [ObjectPath.key?_congr (binding?_eq_some_iff_declared.1 hb).2.1]
      have hnext := bindKey_eq_ok_iff.2 ⟨b, hb, hnew, rfl⟩
      obtain ⟨p', hp'⟩ := (ih (ObjectPath.ascending_withKey hp b.name b.value)).2
        ⟨hbindings, hdistinct, fun other h => (hfree hb other).2 ⟨hnames other h, hothers other h⟩⟩
      exact ⟨p', by rw [List.foldlM_cons, hnext]; exact hp'⟩

/-! ## Builds -/

/-- A key is bound in what was built exactly when it was asked for. -/
theorem Bound.key?_ne_none_iff {located : ObjectPath} {keys : List (String × Value)}
    (h : Bound info located keys p) {name : String} :
    p.key? name ≠ none ↔ ∃ key ∈ keys, Text.sameName name key.1 = true := by
  rw [ne_eq, ObjectPath.key?_eq_none_iff]
  push Not
  simp only [ne_eq, Bool.not_eq_false]
  constructor
  · rintro ⟨b, hb, hname⟩
    obtain ⟨key, hkey, hbinding⟩ := h.mem_keys_iff.1 hb
    refine ⟨key, hkey, ?_⟩
    rw [← Text.sameName_left_congr hname]
    exact (binding?_eq_some_iff_declared.1 hbinding).2.1
  · rintro ⟨key, hkey, hname⟩
    obtain ⟨b, hb, hbinding⟩ := h.exists_binding hkey
    refine ⟨b, hb, ?_⟩
    rw [Text.sameName_left_congr (binding?_eq_some_iff_declared.1 hbinding).2.1,
      Text.sameName_comm]
    exact hname

theorem host_located_iff : (request.host ≠ none → schema.space? request ≠ none) ↔
    (request.host ≠ none → ∃ c ∈ (request.space.getD schema.defaultSpace).toList, c ≠ '/') := by
  rw [space?, ne_eq (ObjectPath.namespace? _), ObjectPath.namespace?_eq_none_iff]
  push Not
  rfl

/-- What is known of a path that was built: the request is complete, and the path is the one that
it asks for. -/
theorem complete_and_built_of_build (h : build schema request = .ok p) :
    ∃ info, schema.class? request.className = some info ∧ Complete schema request info ∧
      Built schema request info p := by
  obtain ⟨info, located, hinfo, hlocated, hkeys, hsupplied⟩ := build_eq_ok_iff.1 h
  obtain ⟨rfl, hspace⟩ := locate_eq_ok_iff.1 hlocated
  have hbound := bound_of_foldlM rfl hkeys
  obtain ⟨hbindings, hdistinct, -⟩ := (exists_foldlM_iff .nil).1 ⟨p, hkeys⟩
  refine ⟨info, hinfo, ?_, ?_⟩
  · exact {
      host_located := host_located_iff.1 hspace
      keys_declared := fun key hkey => (exists_binding?_iff.1 (hbindings key hkey)).1
      keys_distinct := hdistinct
      keys_supplied := fun declared hd => hbound.key?_ne_none_iff.1 (hsupplied declared hd)
      values_bindable := fun key hkey => (exists_binding?_iff.1 (hbindings key hkey)).2 }
  · exact {
      host := congrArg ObjectPath.host hbound.elsewhere
      space := by
        have hplace : p.space = schema.space? request :=
          congrArg ObjectPath.space hbound.elsewhere
        obtain ⟨n, rest, htext, hrest⟩ :=
          ObjectPath.exists_slashes (request.space.getD schema.defaultSpace).toList
        rw [← String.toList_ofList (l := rest)] at htext hrest
        refine ⟨n, String.ofList rest, htext, hrest, ?_⟩
        rw [hplace, space?, ObjectPath.namespace?_of_slashes htext hrest]
      className := congrArg ObjectPath.className hbound.elsewhere
      keys_ascending := hbound.ascending
      mem_keys := fun b => by
        rw [hbound.mem_keys_iff]
        simp only [binding?_eq_some_iff_declared]
        constructor
        · rintro ⟨key, hkey, hdeclared, hrest⟩
          exact ⟨hdeclared, key, hkey, hrest⟩
        · rintro ⟨hdeclared, key, hkey, hrest⟩
          exact ⟨key, hkey, hdeclared, hrest⟩
      bound_once := fun declared hd => by
        obtain ⟨value, hvalue⟩ := Option.ne_none_iff_exists'.1 (hsupplied declared hd)
        obtain ⟨b, hb, hname, -⟩ := (ObjectPath.key?_eq_some_iff hbound.ascending).1 hvalue
        refine ⟨b, ⟨hb, hname⟩, fun c hc => ObjectPath.eq_of_sameName hbound.ascending hc.1 hb ?_⟩
        rw [Text.sameName_left_congr hc.2, Text.sameName_comm]
        exact hname }

theorem exists_build_of_complete (hinfo : schema.class? request.className = some info)
    (h : Complete schema request info) : ∃ p, build schema request = .ok p := by
  let located : ObjectPath := ⟨request.host, schema.space? request, info.name, []⟩
  have hlocated : schema.locate info request = .ok located :=
    locate_eq_ok_iff.2 ⟨rfl, host_located_iff.2 h.host_located⟩
  obtain ⟨p, hp⟩ : ∃ p, request.keys.foldlM (bindKey info) located = .ok p :=
    (exists_foldlM_iff .nil).2
      ⟨fun key hkey => exists_binding?_iff.2 ⟨h.keys_declared key hkey, h.values_bindable key hkey⟩,
        h.keys_distinct, fun _ _ => rfl⟩
  have hbound := bound_of_foldlM rfl hp
  exact ⟨p, build_eq_ok_iff.2 ⟨info, located, hinfo, hlocated, hp,
    fun declared hd => hbound.key?_ne_none_iff.2 (h.keys_supplied declared hd)⟩⟩

theorem Built.space_eq (h : Built schema request info p) : p.space = schema.space? request := by
  obtain ⟨n, rest, htext, hrest, hspace⟩ := h.space
  rw [hspace, space?, ObjectPath.namespace?_of_slashes htext hrest]

/-- A request asks for one path. -/
theorem Built.unique (hp : Built schema request info p) (hq : Built schema request info q) :
    p = q := by
  have hkeys : p.keys = q.keys :=
    ObjectPath.eq_of_ascending hp.keys_ascending hq.keys_ascending fun b => by
      rw [hp.mem_keys, hq.mem_keys]
  have hhost := hp.host.trans hq.host.symm
  have hspace := hp.space_eq.trans hq.space_eq.symm
  have hclass := hp.className.trans hq.className.symm
  cases p
  cases q
  simp only at hhost hspace hclass hkeys
  rw [hhost, hspace, hclass, hkeys]

/-! ## Keys in any order -/

section Permuted

variable {keys : List (String × Value)} (hperm : keys.Perm request.keys)
include hperm

theorem Complete.permuted (h : Complete schema request info) :
    Complete schema { request with keys := keys } info where
  host_located := h.host_located
  keys_declared key hkey := h.keys_declared key (hperm.mem_iff.1 hkey)
  keys_distinct := h.keys_distinct.perm hperm.symm fun hab => by rwa [Text.sameName_comm]
  keys_supplied declared hd := by
    obtain ⟨key, hkey, hname⟩ := h.keys_supplied declared hd
    exact ⟨key, hperm.mem_iff.2 hkey, hname⟩
  values_bindable key hkey := h.values_bindable key (hperm.mem_iff.1 hkey)

theorem Built.permuted (h : Built schema request info p) :
    Built schema { request with keys := keys } info p :=
  { h with mem_keys := fun b => by simp only [h.mem_keys, hperm.mem_iff] }

theorem build_permuted (h : build schema request = .ok p) :
    build schema { request with keys := keys } = .ok p := by
  obtain ⟨info, hinfo, hcomplete, hbuilt⟩ := complete_and_built_of_build h
  obtain ⟨q, hq⟩ : ∃ q, build schema { request with keys := keys } = .ok q :=
    exists_build_of_complete hinfo (hcomplete.permuted hperm)
  obtain ⟨info', hinfo', -, hbuilt'⟩ := complete_and_built_of_build hq
  cases hinfo.symm.trans hinfo'
  rw [hq, (hbuilt.permuted hperm).unique hbuilt']

end Permuted

/-- The requests that can be met are the complete ones. A path is built exactly when the class is
known and the request is complete for it; what is built is then the path that is asked for, and the
order in which the keys are given changes neither whether a path is built nor which. -/
theorem build_complete (schema : Schema) (request : PathRequest) :
    ((∃ p, build schema request = .ok p) ↔
      ∃ info, schema.class? request.className = some info ∧ Complete schema request info) ∧
    (∀ p, build schema request = .ok p →
      ∃ info, schema.class? request.className = some info ∧ Built schema request info p) ∧
    ∀ keys : List (String × Value), keys.Perm request.keys → ∀ p,
      build schema { request with keys := keys } = .ok p ↔ build schema request = .ok p := by
  refine ⟨⟨?_, ?_⟩, fun p hp => ?_, fun keys hperm p => ⟨fun h => ?_, build_permuted hperm⟩⟩
  · rintro ⟨p, hp⟩
    obtain ⟨info, hinfo, hcomplete, -⟩ := complete_and_built_of_build hp
    exact ⟨info, hinfo, hcomplete⟩
  · rintro ⟨info, hinfo, hcomplete⟩
    exact exists_build_of_complete hinfo hcomplete
  · obtain ⟨info, hinfo, -, hbuilt⟩ := complete_and_built_of_build hp
    exact ⟨info, hinfo, hbuilt⟩
  · exact @build_permuted schema { request with keys := keys } p request.keys hperm.symm h

/-- A class that declares a key in two spellings takes it once, in the first of them. -/
theorem build_complete_respelled :
    let schema : Schema := ⟨"root", [⟨"Disk", "root", ["ID", "Host", "id"]⟩]⟩
    let request : PathRequest :=
      ⟨"disk", some "hub", some "//cim", [("host", .integer 7), ("Id", .string "sda")]⟩
    ∃ p, build schema request = .ok p ∧
      build schema { request with keys := request.keys.reverse } = .ok p ∧
      p.className = "Disk" ∧ ⟨"ID", .text "sda"⟩ ∈ p.keys ∧ ∀ b ∈ p.keys, b.name ≠ "id" := by
  intro schema request
  obtain ⟨hbuild, hbuilt, hpermuted⟩ := build_complete schema request
  have hinfo : schema.class? request.className = some ⟨"Disk", "root", ["ID", "Host", "id"]⟩ := by
    decide +kernel
  have hcomplete : Complete schema request ⟨"Disk", "root", ["ID", "Host", "id"]⟩ := {
    host_located := fun _ => ⟨'c', by decide +kernel, by decide⟩
    keys_declared := by decide +kernel
    keys_distinct := by decide +kernel
    keys_supplied := by decide +kernel
    values_bindable := List.forall_mem_cons.2
      ⟨⟨_, .integer 7⟩, List.forall_mem_singleton.2 ⟨_, .string "sda"⟩⟩ }
  obtain ⟨p, hp⟩ := hbuild.2 ⟨_, hinfo, hcomplete⟩
  obtain ⟨info, hinfo', h⟩ := hbuilt p hp
  cases hinfo.symm.trans hinfo'
  refine ⟨p, hp, (hpermuted _ (List.reverse_perm _) p).2 hp, h.className, ?_, fun b hb hname => ?_⟩
  · exact (h.mem_keys _).2 ⟨by decide +kernel, ("Id", .string "sda"),
      List.mem_cons_of_mem _ List.mem_cons_self, by decide +kernel, .string "sda"⟩
  · have hdeclared := ((h.mem_keys b).1 hb).1
    rw [hname] at hdeclared
    revert hdeclared
    decide +kernel

end Schema

end InstanceFilter
