/-
Sameness of paths as sameness of maps. Key bindings pair up place by place exactly when every name
is bound alike in both, since keys in ascending order are told by what they are; so two paths are
the same when their places and class names agree in any case and no lookup tells them apart, and
binding the same key on both keeps them the same.
-/
import InstanceFilter.Proofs.ObjectPath.Unchanged
import InstanceFilter.Proofs.Schema.Obtained
import Mathlib

namespace InstanceFilter

theorem Text.fold_lowered (name : String) : fold (lowered name) = fold name := by
  simp [lowered, fold]

theorem Text.sameName?_iff_rel {a b : Option String} :
    sameName? a b = true ↔ Option.Rel (fun a b => sameName a b = true) a b := by
  cases a <;> cases b <;> simp [sameName?]

/-- The binding with its names without capitals, those in a reference included. -/
def KeyBinding.lowered (b : KeyBinding) : KeyBinding := ⟨Text.lowered b.name, b.value.lowered⟩

theorem loweredBindings_eq_map (keys : List KeyBinding) :
    loweredBindings keys = keys.map KeyBinding.lowered := by
  induction keys with
  | nil => rfl
  | cons b keys ih =>
    obtain ⟨name, value⟩ := b
    rw [loweredBindings, ih]
    rfl

namespace ObjectPath

variable {p q : ObjectPath}

/-- The keys of two paths agree: a name is bound in both, to values that are the same, or in
neither. -/
def SameKeys (p q : ObjectPath) : Prop :=
  ∀ name, Option.Rel (fun v w => KeyValue.same v w = true) (p.key? name) (q.key? name)

/-! ## Pairing up and lookup -/

theorem ascending_lowered {keys : List KeyBinding} (h : keys.Pairwise KeyBinding.Before) :
    (loweredBindings keys).Pairwise KeyBinding.Before := by
  rw [loweredBindings_eq_map, List.pairwise_map]
  refine h.imp fun {a b} hab => ?_
  show compare (Text.fold (Text.lowered a.name)) (Text.fold (Text.lowered b.name)) = .lt
  rwa [Text.fold_lowered, Text.fold_lowered]

/-- Keys that pair up answer every lookup alike, in whatever order they stand. -/
theorem sameKeys_of_sameBindings (h : sameBindings p.keys q.keys = true) : p.SameKeys q := by
  intro name
  unfold key?
  replace h := forall₂_of_sameBindings h
  generalize p.keys = as at h ⊢
  generalize q.keys = bs at h ⊢
  induction h with
  | nil => exact .none
  | @cons a b as bs hab _ ih =>
    rw [List.find?_cons, List.find?_cons, Text.sameName_left_congr hab.1]
    cases Text.sameName b.name name with
    | true => exact .some hab.2
    | false => exact ih

/-- A binding of the one path is one of the other, once both are written without capitals. -/
theorem SameKeys.mem_lowered (h : p.SameKeys q) (hp : p.keys.Pairwise KeyBinding.Before)
    (hq : q.keys.Pairwise KeyBinding.Before) {b : KeyBinding} (hb : b ∈ p.keys) :
    b.lowered ∈ loweredBindings q.keys := by
  have hbound : p.key? b.name = some b.value :=
    (key?_eq_some_iff hp).2 ⟨b, hb, Text.sameName_self b.name, rfl⟩
  have hrel := h b.name
  rw [hbound] at hrel
  cases hfound : q.key? b.name with
  | none =>
    rw [hfound] at hrel
    cases hrel
  | some w =>
    rw [hfound] at hrel
    obtain ⟨c, hc, hname, rfl⟩ := (key?_eq_some_iff hq).1 hfound
    cases hrel with
    | some hvalue =>
      rw [loweredBindings_eq_map]
      refine List.mem_map.2 ⟨c, hc, ?_⟩
      rw [KeyBinding.lowered, KeyBinding.lowered, Text.sameName_iff_lowered.1 hname,
        KeyValue.same_iff_lowered.1 hvalue]

theorem SameKeys.symm (h : p.SameKeys q) : q.SameKeys p := by
  intro name
  have hrel := h name
  cases hp : p.key? name <;> cases hq : q.key? name <;> rw [hp, hq] at hrel <;> cases hrel
  · exact .none
  · next hvalue =>
    exact .some (KeyValue.same_iff_lowered.2 (KeyValue.same_iff_lowered.1 hvalue).symm)

/-- Ascending keys pair up when every lookup is answered alike. -/
theorem sameBindings_iff_sameKeys (hp : p.keys.Pairwise KeyBinding.Before)
    (hq : q.keys.Pairwise KeyBinding.Before) :
    sameBindings p.keys q.keys = true ↔ p.SameKeys q := by
  refine ⟨sameKeys_of_sameBindings, fun h => ?_⟩
  have hmem {p q : ObjectPath} (h : p.SameKeys q) (hp : p.keys.Pairwise KeyBinding.Before)
      (hq : q.keys.Pairwise KeyBinding.Before) (b : KeyBinding) (hb : b ∈ loweredBindings p.keys) :
      b ∈ loweredBindings q.keys := by
    rw [loweredBindings_eq_map] at hb
    obtain ⟨c, hc, rfl⟩ := List.mem_map.1 hb
    exact h.mem_lowered hp hq hc
  exact sameBindings_iff_lowered.2 <| eq_of_ascending (ascending_lowered hp) (ascending_lowered hq)
    fun b => ⟨hmem h hp hq b, hmem h.symm hq hp b⟩

/-! ## Paths -/

theorem same_iff_sameBindings : p.same q = true ↔
    Option.Rel (fun a b => Text.sameName a b = true) p.host q.host ∧
      Option.Rel (fun a b => Text.sameName a b = true) p.space q.space ∧
      Text.sameName p.className q.className = true ∧ sameBindings p.keys q.keys = true := by
  obtain ⟨host, space, className, keys⟩ := p
  obtain ⟨host', space', className', keys'⟩ := q
  simp only [same, Bool.and_eq_true, and_assoc, Text.sameName?_iff_rel]

theorem Arranged.same_iff (hp : p.Arranged) (hq : q.Arranged) : p.same q = true ↔
    Option.Rel (fun a b => Text.sameName a b = true) p.host q.host ∧
      Option.Rel (fun a b => Text.sameName a b = true) p.space q.space ∧
      Text.sameName p.className q.className = true ∧ p.SameKeys q := by
  rw [same_iff_sameBindings,
    sameBindings_iff_sameKeys (arranged_iff.1 hp).2 (arranged_iff.1 hq).2]

/-- The same key bound on both leaves the keys in agreement. -/
theorem SameKeys.withKey (h : p.SameKeys q) (hp : p.Arranged) (hq : q.Arranged)
    {name name' : String} {v w : KeyValue} (hname : Text.sameName name name' = true)
    (hvalue : v.same w = true) : (p.withKey name v).SameKeys (q.withKey name' w) := by
  intro other
  rw [key?_withKey (arranged_iff.1 hp).2, key?_withKey (arranged_iff.1 hq).2,
    Text.sameName_right_congr hname]
  split
  · exact .some hvalue
  · exact h other

theorem Arranged.same_withKey (hp : p.Arranged) (hq : q.Arranged) (h : p.same q = true)
    {name name' : String} {v w : KeyValue} (hname : Text.sameName name name' = true)
    (hvalue : v.same w = true) : (p.withKey name v).same (q.withKey name' w) = true := by
  obtain ⟨hhost, hspace, hclass, hkeys⟩ := (hp.same_iff hq).1 h
  exact ((hp.withKey name v).same_iff (hq.withKey name' w)).2
    ⟨hhost, hspace, hclass, hkeys.withKey hp hq hname hvalue⟩

/-- Sameness is what can be told of a path from outside. However two paths were obtained, they are
the same exactly when their hosts, namespaces and class names agree in any case and every key lookup
is answered alike; sameness is an equivalence, whatever is nested in the paths, and it is kept when
the same key is bound on both. -/
theorem same_extensional (Given : ObjectPath → Prop) :
    (∀ p q, Obtained Given p → Obtained Given q → (p.same q = true ↔
      Option.Rel (fun a b => Text.sameName a b = true) p.host q.host ∧
        Option.Rel (fun a b => Text.sameName a b = true) p.space q.space ∧
        Text.sameName p.className q.className = true ∧
        ∀ name, Option.Rel (fun v w => KeyValue.same v w = true) (p.key? name) (q.key? name))) ∧
    Equivalence (fun p q : ObjectPath => p.same q = true) ∧
    ∀ p q, Obtained Given p → Obtained Given q → p.same q = true →
      ∀ name name' v w, Text.sameName name name' = true → KeyValue.same v w = true →
        (p.withKey name v).same (q.withKey name' w) = true :=
  ⟨fun _ _ hp hq => hp.arranged.same_iff hq.arranged, ⟨same_self, same_symm, same_trans⟩,
    fun _ _ hp hq h _ _ _ _ => hp.arranged.same_withKey hq.arranged h⟩

/-- Keys bound in either order and in any case, one of them to a reference. -/
theorem same_extensional_disks :
    let p := ((ofClass "Disk").withKey "Host" (.reference (ofClass "CPU"))).withKey "ID" (.text "sda")
    let q := ((ofClass "DISK").withKey "id" (.text "sda")).withKey "host" (.reference (ofClass "cpu"))
    Obtained (fun _ => True) p ∧ Obtained (fun _ => True) q ∧ p.same q = true ∧
      Option.Rel (fun v w => KeyValue.same v w = true) (p.key? "HOST") (q.key? "HOST") ∧
      (p.withKey "id" (.text "sdb")).same (q.withKey "Id" (.text "sdb")) = true := by
  intro p q
  obtain ⟨hextensional, -, hbinding⟩ := same_extensional fun _ => True
  have hp : Obtained (fun _ => True) p :=
    .withKey (.withKey (.ofClass "Disk") "Host" fun _ _ => trivial) "ID" fun _ _ => trivial
  have hq : Obtained (fun _ => True) q :=
    .withKey (.withKey (.ofClass "DISK") "id" fun _ _ => trivial) "host" fun _ _ => trivial
  have hsame : p.same q = true := by cbv
  obtain ⟨-, -, -, hkeys⟩ := (hextensional p q hp hq).1 hsame
  exact ⟨hp, hq, hsame, hkeys "HOST",
    hbinding p q hp hq hsame "id" "Id" _ _ (by decide +kernel) (by decide +kernel)⟩

end ObjectPath

end InstanceFilter
