/-
Built paths written and read again. A path that is built of well-spelled names always has a text
that can be read, and what is read has its host, namespace, class and key names. Of the key values
all come back but two kinds: a string that itself reads as a path with keys comes back as that path,
and a reference comes back only if its path has a key and comes back from its own text.
-/
import InstanceFilter.Proofs.DateTime.Columns
import InstanceFilter.Proofs.ObjectPath.RoundTrip
import InstanceFilter.Proofs.Schema.Building

namespace InstanceFilter

/-! ## Values that come back -/

/-- A key value that comes back equal from the text of a path that is bound to it. -/
def KeyValue.Persists : KeyValue → Prop
  | .text s => ¬ ('=' ∈ s.toList ∧ ∃ r, ObjectPath.parse s = .ok r ∧ r.keys ≠ [])
  | .reference r => r.keys ≠ [] ∧ ∃ q, ObjectPath.parse r.toText = .ok q ∧ q.same r = true
  | .boolean _ | .integer _ => True

/-- A value that comes back equal as the key of a path: of the values that can be bound, only
strings and references may not. -/
def Value.Persists : Value → Prop
  | .string s => (KeyValue.text s).Persists
  | .reference r => (KeyValue.reference r).Persists
  | _ => True

theorem DateTime.equals_notMem_render (d : DateTime) : '=' ∉ d.render := by
  have hpadded (width n : Nat) : '=' ∉ padded width n := fun h =>
    absurd (isDigit_of_mem_padded h) (by decide)
  cases d with
  | timestamp t offset => by_cases hsign : offset < 0 <;> simp [render, hpadded, hsign]
  | interval micros => simp [render, hpadded]

theorem Value.persists_iff {v : Value} {bound : KeyValue} (h : v.keyValue? = some bound) :
    v.Persists ↔ bound.Persists := by
  cases v with
  | string s | reference r | boolean b | integer n =>
    cases h
    exact Iff.rfl
  | dateTime d =>
    cases h
    -- the text of a date-time has no equals sign, and a path with a key has one
    refine iff_of_true trivial fun hkeyed => d.equals_notMem_render ?_
    rw [← String.toList_ofList (l := d.render)]
    exact hkeyed.1
  | null | double x | property ref | array items => cases h

namespace ObjectPath

/-- What is read for a value is equal to it exactly when the value persists. -/
theorem same_reread_iff {b : KeyBinding} :
    (reread b).value.same b.value = true ↔ b.value.Persists := by
  constructor
  · intro h
    obtain ⟨hdistinct, hpath⟩ := distinct_of_same h
    cases hv : b.value with
    | text s =>
      rw [hv] at hdistinct
      exact hdistinct
    | reference r =>
      rw [hv] at hdistinct
      refine ⟨hdistinct, ?_⟩
      rw [parse_toText]
      exact hpath r hv
    | boolean _ => trivial
    | integer _ => trivial
  · obtain ⟨name, value⟩ := b
    intro h
    cases value with
    | text s =>
      show (quotedValue s.toList (parse s)).same (.text s) = true
      rw [quotedValue_text h, String.ofList_toList]
      simp [KeyValue.same]
    | reference r =>
      obtain ⟨hkeys, q, hq, hsame⟩ := h
      rw [parse_toText] at hq
      show (quotedValue r.render (parseChars r.render)).same (.reference r) = true
      -- what was read has a key like the path, so it is taken for a reference again
      have hread : q.keys ≠ [] := (keys_ne_nil_iff_of_same hsame).2 hkeys
      rw [hq, quotedValue_path (equals_mem_render hkeys) hread]
      simpa [KeyValue.same] using hsame
    | boolean b =>
      show (KeyValue.boolean b).same (.boolean b) = true
      simp [KeyValue.same]
    | integer n =>
      show (KeyValue.integer n).same (.integer n) = true
      simp [KeyValue.same]

theorem sameBindings_map_iff {f : KeyBinding → KeyBinding} (hname : ∀ b, (f b).name = b.name)
    {keys : List KeyBinding} : sameBindings (keys.map f) keys = true ↔
      ∀ b ∈ keys, (f b).value.same b.value = true := by
  induction keys with
  | nil => exact iff_of_true rfl nofun
  | cons b keys ih => simp [sameBindings_cons, hname, ih]

/-- A path whose text can be read comes back with its host, namespace, class and key names, with
every value that persists, and with no other. -/
theorem parse_toText_of_spelled {p : ObjectPath} (h : p.Spelled) (ha : p.Anchored) :
    ∃ q, parse p.toText = .ok q ∧
      q.host = p.host ∧ q.space = p.space ∧ q.className = p.className ∧
      q.keys.map KeyBinding.name = p.keys.map KeyBinding.name ∧
      (∀ name value, p.key? name = some value → ∃ read, q.key? name = some read ∧
        (read.same value = true ↔ value.Persists)) ∧
      (q.same p = true ↔ ∀ b ∈ p.keys, b.value.Persists) := by
  have hname (b : KeyBinding) : (reread b).name = b.name := rfl
  refine ⟨{ p with keys := p.keys.map reread }, ?_, rfl, rfl, rfl, ?_, fun name value hvalue => ?_,
    ?_⟩
  · rw [parse_toText, parseChars_render h ha]
  · rw [List.map_map]
    rfl
  · obtain ⟨b, hb, rfl⟩ := Option.map_eq_some_iff.1 hvalue
    refine ⟨(reread b).value, ?_, same_reread_iff⟩
    rw [key?, List.find?_map]
    exact congrArg (Option.map _) (congrArg (Option.map reread) hb)
  · rw [same_with_keys_iff, sameBindings_map_iff hname]
    simp only [same_reread_iff]

/-- A path of a class and one key comes back if the key is told by its text and is no reference. -/
theorem parse_toText_of_single {className name : String} {value : KeyValue}
    (hclass : Text.isIdentifier className.toList = true)
    (hname : Text.isIdentifier name.toList = true) (hvalue : value.Distinct)
    (hr : ∀ r, value ≠ .reference r) :
    parse (toText ⟨none, none, className, [⟨name, value⟩]⟩) =
      .ok ⟨none, none, className, [⟨name, value⟩]⟩ := by
  obtain ⟨hshape, hfaithful⟩ :=
    faithful_of_single hclass hname hvalue fun r h => absurd h (hr r)
  rw [parse_toText]
  exact parseChars_render_of_faithful hshape hfaithful

end ObjectPath

/-! ## Built paths -/

namespace Schema

variable {schema : Schema} {request : PathRequest} {p : ObjectPath}

/-! ### A class with one key -/

theorem spelled_of_single {defaultSpace name space key : String}
    (hname : Text.isIdentifier name.toList = true) (hkey : Text.isIdentifier key.toList = true) :
    Spelled ⟨defaultSpace, [⟨name, space, [key]⟩]⟩ where
  classes_identifiers := List.forall_mem_singleton.2 hname
  keys_identifiers := List.forall_mem_singleton.2 (List.forall_mem_singleton.2 hkey)

/-- The key is bound under the name declared for it, in whatever case it was asked for. -/
theorem build_single {defaultSpace name space key name' key' : String} {v : Value}
    {bound : KeyValue} (hname : Text.sameName name name' = true)
    (hkey : Text.sameName key key' = true) (hbound : v.keyValue? = some bound) :
    build ⟨defaultSpace, [⟨name, space, [key]⟩]⟩ ⟨name', none, none, [(key', v)]⟩ =
      .ok ⟨none, ObjectPath.namespace? defaultSpace, name, [⟨key, bound⟩]⟩ := by
  have hclass : class? ⟨defaultSpace, [⟨name, space, [key]⟩]⟩ name' =
      some ⟨name, space, [key]⟩ := List.find?_cons_of_pos hname
  have hlocate : locate ⟨defaultSpace, [⟨name, space, [key]⟩]⟩ ⟨name, space, [key]⟩
      ⟨name', none, none, [(key', v)]⟩ =
        .ok ⟨none, ObjectPath.namespace? defaultSpace, name, []⟩ :=
    locate_eq_ok_iff.2 ⟨rfl, fun h => absurd rfl h⟩
  have hbind : bindKey ⟨name, space, [key]⟩ ⟨none, ObjectPath.namespace? defaultSpace, name, []⟩
      (key', v) = .ok ⟨none, ObjectPath.namespace? defaultSpace, name, [⟨key, bound⟩]⟩ := by
    have hdeclared : ClassInfo.keyProperty? ⟨name, space, [key]⟩ key' = some key :=
      List.find?_cons_of_pos hkey
    refine bindKey_eq_ok_iff.2 ⟨⟨key, bound⟩, ?_, rfl, ?_⟩
    · exact binding?_eq_some_iff.2 ⟨hdeclared, hbound⟩
    · exact congrArg (ObjectPath.mk _ _ _) (List.mergeSort_singleton _).symm
  refine build_eq_ok_iff.2 ⟨_, _, hclass, hlocate, ?_, List.forall_mem_singleton.2 ?_⟩
  · rw [List.foldlM_cons, hbind]
    rfl
  · rw [Ne, ObjectPath.key?_eq_none_iff, List.forall_mem_singleton, Text.sameName_self]
    exact Bool.noConfusion

theorem placed_root {classes : List ClassInfo} {className : String} {keys : List (String × Value)} :
    Placed ⟨"root", classes⟩ ⟨className, none, none, keys⟩ := by
  have hspace : space? ⟨"root", classes⟩ ⟨className, none, none, keys⟩ = some "root" := by
    show ObjectPath.namespace? "root" = some "root"
    decide
  refine ⟨nofun, ?_, ?_, ?_⟩
  all_goals
    rw [hspace]
    rintro _ ⟨⟩
  · decide
  · decide
  · rintro _ ⟨⟩
    exact Text.isBlank_eq_false (by decide)

/-! ### Any schema -/

/-- A path that is built of well-spelled names can be read again, with its host, namespace, class
and key names, and each key is bound to what it was bound to if that persists, and to something else
if not. So the path comes back equal exactly when all values that it was built with persist. -/
theorem parse_build (hs : schema.Spelled) (hr : schema.Placed request)
    (h : build schema request = .ok p) :
    ∃ q, ObjectPath.parse p.toText = .ok q ∧
      q.host = p.host ∧ q.space = p.space ∧ q.className = p.className ∧
      q.keys.map KeyBinding.name = p.keys.map KeyBinding.name ∧
      (∀ name value, p.key? name = some value → ∃ read, q.key? name = some read ∧
        (read.same value = true ↔ value.Persists)) ∧
      (q.same p = true ↔ ∀ key ∈ request.keys, key.2.Persists) := by
  obtain ⟨hspelled, hanchored⟩ := spelled_of_build hs hr h
  obtain ⟨q, hq, hhost, hspace, hclass, hnames, hvalues, hsame⟩ :=
    ObjectPath.parse_toText_of_spelled hspelled hanchored
  refine ⟨q, hq, hhost, hspace, hclass, hnames, hvalues, hsame.trans ?_⟩
  obtain ⟨info, -, -, hbound⟩ := bound_of_build h
  constructor
  · intro hpersist key hkey
    obtain ⟨b, hb, hbinding⟩ := hbound.exists_binding hkey
    exact (Value.persists_iff (binding?_eq_some_iff.1 hbinding).2).2 (hpersist b hb)
  · intro hpersist b hb
    obtain ⟨key, hkey, hbinding⟩ := hbound.mem_keys_iff.1 hb
    exact (Value.persists_iff (binding?_eq_some_iff.1 hbinding).2).1 (hpersist key hkey)

/-- A reference to a path with a key comes back as one. -/
theorem parse_build_reference : ∃ (schema : Schema) (request : PathRequest) (p q : ObjectPath),
    schema = ⟨"root", [⟨"Log", "root", ["Origin"]⟩]⟩ ∧
    request = ⟨"log", none, none,
      [("origin", .reference ⟨none, none, "B", [⟨"k", .boolean true⟩]⟩)]⟩ ∧
    schema.Spelled ∧ schema.Placed request ∧ build schema request = .ok p ∧
    ObjectPath.parse p.toText = .ok q ∧ q.same p = true := by
  have hs : Spelled ⟨"root", [⟨"Log", "root", ["Origin"]⟩]⟩ :=
    spelled_of_single (by decide) (by decide)
  have hbuild : build ⟨"root", [⟨"Log", "root", ["Origin"]⟩]⟩ ⟨"log", none, none,
      [("origin", .reference ⟨none, none, "B", [⟨"k", .boolean true⟩]⟩)]⟩ = .ok _ :=
    build_single (by decide) (by decide) rfl
  have horigin : (KeyValue.reference ⟨none, none, "B", [⟨"k", .boolean true⟩]⟩).Persists :=
    ⟨List.cons_ne_nil _ _, _,
      ObjectPath.parse_toText_of_single (by decide) (by decide) trivial nofun,
      ObjectPath.same_self _⟩
  obtain ⟨q, hq, -, -, -, -, -, hsame⟩ := parse_build hs placed_root hbuild
  exact ⟨_, _, _, q, rfl, rfl, hs, placed_root, hbuild, hq,
    hsame.2 (List.forall_mem_singleton.2 horigin)⟩

/-- The string `B.k=1` reads as a path with a key, and comes back as a reference to it. -/
theorem parse_build_keyed_text : ∃ (schema : Schema) (request : PathRequest) (p q : ObjectPath),
    schema = ⟨"root", [⟨"Log", "root", ["Origin"]⟩]⟩ ∧
    request = ⟨"Log", none, none, [("Origin", .string "B.k=1")]⟩ ∧
    schema.Spelled ∧ schema.Placed request ∧ build schema request = .ok p ∧
    ObjectPath.parse p.toText = .ok q ∧ q.same p = false := by
  have hs : Spelled ⟨"root", [⟨"Log", "root", ["Origin"]⟩]⟩ :=
    spelled_of_single (by decide) (by decide)
  have hbuild : build ⟨"root", [⟨"Log", "root", ["Origin"]⟩]⟩
      ⟨"Log", none, none, [("Origin", .string "B.k=1")]⟩ = .ok _ :=
    build_single (by decide) (by decide) rfl
  obtain ⟨hspelled, hanchored⟩ := spelled_of_build hs placed_root hbuild
  obtain ⟨q, hq, -, -, -, -, -, hsame⟩ := ObjectPath.parse_toText_of_spelled hspelled hanchored
  refine ⟨_, _, _, q, rfl, rfl, hs, placed_root, hbuild, hq, Bool.eq_false_iff.2 fun hequal => ?_⟩
  have htext : ObjectPath.toText ⟨none, none, "B", [⟨"k", .integer (.ofInt64 1)⟩]⟩ = "B.k=1" := by
    decide
  have hkeyed : ObjectPath.parse "B.k=1" = .ok ⟨none, none, "B", [⟨"k", .integer (.ofInt64 1)⟩]⟩ := by
    rw [← htext]
    exact ObjectPath.parse_toText_of_single (by decide) (by decide) trivial nofun
  exact List.forall_mem_singleton.1 (hsame.1 hequal) ⟨by decide, _, hkeyed, List.cons_ne_nil _ _⟩

end Schema

end InstanceFilter
