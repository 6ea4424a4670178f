/-
Every path that can be obtained. A path starts as a class, as what is read of a text or as what a
schema builds, and is placed, qualified and given keys from there. Each of these leaves it arranged,
so the keys of a path, however it was obtained, and of each path that was read within it, are a map
from names in any case to values.
-/
import InstanceFilter.Proofs.ObjectPath.Listing
import InstanceFilter.Proofs.Schema.Building

namespace InstanceFilter.ObjectPath

/-- The paths that a sequence of operations comes to. The paths bound as values on the way are given
ones; a schema is not the only context that can qualify a path, and another may give its class any
name. -/
inductive Obtained (Given : ObjectPath → Prop) : ObjectPath → Prop
  | ofClass (className : String) : Obtained Given (.ofClass className)
  | atLocation {p q : ObjectPath} {host space : String} (hp : Obtained Given p)
    (hq : p.atLocation host space = .ok q) : Obtained Given q
  | inNamespace {p : ObjectPath} (hp : Obtained Given p) (space : String) :
    Obtained Given (p.inNamespace space)
  | withKey {p : ObjectPath} (hp : Obtained Given p) (name : String) {value : KeyValue}
    (hvalue : ∀ r, value = .reference r → Given r) : Obtained Given (p.withKey name value)
  | parse {text : String} {p : ObjectPath} (hp : ObjectPath.parse text = .ok p) : Obtained Given p
  | qualify {p : ObjectPath} (hp : Obtained Given p) (schema : Schema) :
    Obtained Given (schema.qualify p)
  | renamed {p : ObjectPath} (hp : Obtained Given p) (className : String) :
    Obtained Given { p with className := className }
  | build {schema : Schema} {request : PathRequest} {p : ObjectPath}
    (hp : schema.build request = .ok p)
    (hvalues : ∀ key ∈ request.keys, ∀ r, key.2 = .reference r → Given r) : Obtained Given p

variable {Given : ObjectPath → Prop} {p q : ObjectPath}

/-! ## Steps of a schema -/

/-- Qualifying a path places it in the default namespace, or leaves it where it is, and names its
class. -/
theorem exists_qualify_eq (schema : Schema) (p : ObjectPath) : ∃ located className,
    (located = p ∨ located = p.inNamespace schema.defaultSpace) ∧
      schema.qualify p = { located with className := className } := by
  unfold Schema.qualify
  simp only
  generalize hlocated : (if p.space.isNone then p.inNamespace schema.defaultSpace else p) = located
  have hplace : located = p ∨ located = p.inNamespace schema.defaultSpace := by
    rw [← hlocated]
    split
    · exact .inr rfl
    · exact .inl rfl
  cases schema.class? located.className with
  | none =>
    refine ⟨located, located.className, hplace, ?_⟩
    cases located
    rfl
  | some info => exact ⟨located, info.name, hplace, rfl⟩

theorem keys_qualify (schema : Schema) (p : ObjectPath) : (schema.qualify p).keys = p.keys := by
  obtain ⟨located, className, rfl | rfl, h⟩ := exists_qualify_eq schema p
  · rw [h]
  · rw [h]
    exact keys_inNamespace p schema.defaultSpace

theorem Arranged.qualify (hp : p.Arranged) (schema : Schema) : (schema.qualify p).Arranged := by
  obtain ⟨located, className, rfl | rfl, h⟩ := exists_qualify_eq schema p
  · rw [h]
    exact hp.renamed className
  · rw [h]
    exact (hp.inNamespace schema.defaultSpace).renamed className

section Build

variable {schema : Schema} {request : PathRequest} (hp : schema.build request = .ok p)
include hp

theorem arranged_of_build : p.Arranged := by
  obtain ⟨info, -, hlocated, hbound⟩ := Schema.bound_of_build hp
  have hhost : p.host = request.host := congrArg ObjectPath.host hbound.elsewhere
  have hspace : p.space = schema.space? request := congrArg ObjectPath.space hbound.elsewhere
  refine arranged_iff.2 ⟨?_, hbound.ascending⟩
  rw [hhost, hspace]
  exact located_of_namespace? hlocated

/-- A reference that a built path has is one of the values asked for. -/
theorem reference_of_build {b : KeyBinding} (hb : b ∈ p.keys) {r : ObjectPath}
    (hr : b.value = .reference r) : ∃ key ∈ request.keys, key.2 = .reference r := by
  obtain ⟨info, -, -, hbound⟩ := Schema.bound_of_build hp
  obtain ⟨⟨name, v⟩, hkey, hbinding⟩ := hbound.mem_keys_iff.1 hb
  obtain ⟨-, hvalue⟩ := Schema.binding?_eq_some_iff.1 hbinding
  refine ⟨_, hkey, ?_⟩
  rw [hr] at hvalue
  cases v with
  | reference path =>
    cases hvalue
    rfl
  | _ => cases hvalue

end Build

/-! ## Runs -/

/-- The path is arranged, unless it stands within a given one. -/
def Accounted (Given : ObjectPath → Prop) (q : ObjectPath) : Prop :=
  q.Arranged ∨ ∃ r, Given r ∧ q.Within r

theorem Obtained.arranged (h : Obtained Given p) : p.Arranged := by
  induction h with
  | ofClass className => exact arranged_ofClass className
  | atLocation _ hq ih => exact ih.atLocation hq
  | inNamespace _ space ih => exact ih.inNamespace space
  | withKey _ name _ ih => exact ih.withKey name _
  | parse hp => exact ((spelled_and_faithful_of_parseChars hp).1 _ .self).arranged
  | qualify _ schema ih => exact ih.qualify schema
  | renamed _ className ih => exact ih.renamed className
  | build hp _ => exact arranged_of_build hp

/-- Every path in a reference of an obtained path was read, or it stands within a given path. -/
theorem Obtained.accounted (h : Obtained Given p) :
    ∀ b ∈ p.keys, ∀ r, b.value = .reference r → ∀ q : ObjectPath, q.Within r → Accounted Given q := by
  have hgiven {r : ObjectPath} (hr : Given r) (q : ObjectPath) (hq : q.Within r) :
      Accounted Given q := .inr ⟨r, hr, hq⟩
  induction h with
  | ofClass className => exact nofun
  | atLocation _ hq ih =>
    obtain ⟨-, rfl⟩ := atLocation_eq_ok_iff.1 hq
    exact ih
  | inNamespace _ space ih =>
    rw [keys_inNamespace]
    exact ih
  | withKey _ name hvalue ih =>
    intro b hb r hr
    rcases mem_keys_withKey.1 hb with ⟨hb, -⟩ | rfl
    · exact ih b hb r hr
    · exact hgiven (hvalue r hr)
  | parse hp =>
    obtain ⟨hspelled, -⟩ := spelled_and_faithful_of_parseChars hp
    exact fun b hb r hr q hq => .inl (hspelled q (.inside hb hr hq)).arranged
  | qualify _ schema ih =>
    rw [keys_qualify]
    exact ih
  | renamed _ className ih => exact ih
  | build hp hvalues =>
    intro b hb r hr
    obtain ⟨key, hkey, hvalue⟩ := reference_of_build hp hb hr
    exact hgiven (hvalues key hkey r hvalue)

/-- The keys of a path are a map that ignores the case of names. However a path was obtained, it is
arranged, and so is each path within it that was not given from outside. On an arranged path a key
that was bound is found under its name and no other lookup changes, and keys of different names come
to the same path in whatever order they are bound. A text that lists keys reads with the same keys,
and it can list them in any order. -/
theorem keys_sorted_map (Given : ObjectPath → Prop) :
    (∀ p, Obtained Given p → p.Arranged ∧
      ∀ q : ObjectPath, q.Within p → q.Arranged ∨ ∃ r, Given r ∧ q.Within r) ∧
    (∀ p : ObjectPath, p.Arranged → ∀ name value other, (p.withKey name value).key? other =
      if Text.sameName other name then some value else p.key? other) ∧
    (∀ p : ObjectPath, p.Arranged → ∀ keys keys' : List KeyBinding,
      (keys.Pairwise fun a b => Text.sameName a.name b.name = false) → keys'.Perm keys →
      p.withKeys keys' = p.withKeys keys) ∧
    (∀ (w : Writing) (text : String), w.Grammatical → w.text = Text.trim text.toList →
      ∀ listed keys, List.Forall₂ BindingText.Denotes w.bindings listed → listed.Perm keys →
        ∃ p, ObjectPath.parse text = .ok p ∧
          p.keys = ((ofClass w.className).withKeys keys).keys) ∧
    ∀ (w : Writing) (text : String), w.Grammatical → w.text = Text.trim text.toList →
      ∀ (bindings : List BindingText) (text' : String), bindings.Perm w.bindings →
        Writing.text { w with bindings := bindings } = Text.trim text'.toList →
        ∃ p, ObjectPath.parse text = .ok p ∧ ObjectPath.parse text' = .ok p := by
  refine ⟨fun p hp => ⟨hp.arranged, ?_⟩, fun p hp => key?_withKey (arranged_iff.1 hp).2,
    fun p hp keys keys' hdistinct => withKeys_perm hdistinct (arranged_iff.1 hp).2,
    fun w text hw htext listed keys hlisted hperm => ?_,
    fun w text hw htext bindings text' hperm htext' => parse_permuted hw htext hperm htext'⟩
  · exact forall_within_iff.2 ⟨.inl hp.arranged, hp.accounted⟩
  · refine ⟨_, parse_of_listed hw htext hlisted hperm, ?_⟩
    have hdistinct := distinct_of_perm hperm (distinct_of_denotes hw hlisted)
    exact (keys_withKeys_of_keyless hdistinct rfl).symm

/-- Two keys in either order, and one of them bound again in another case. -/
theorem keys_sorted_map_rebound :
    let listed : List KeyBinding := [⟨"b", .boolean true⟩, ⟨"A", .boolean false⟩]
    ∃ p, parse "Disk.b=true,A=false" = .ok p ∧ parse "Disk.A=false,b=true" = .ok p ∧
      (ofClass "Disk").withKeys listed.reverse = (ofClass "Disk").withKeys listed ∧
      (p.withKey "B" (.text "x")).Arranged ∧
      (p.withKey "B" (.text "x")).key? "b" = some (.text "x") ∧
      (p.withKey "B" (.text "x")).key? "a" = some (.boolean false) := by
  intro listed
  let w : Writing := ⟨none, none, "Disk",
    [⟨"b".toList, .bare "true".toList⟩, ⟨"A".toList, .bare "false".toList⟩]⟩
  obtain ⟨harranged, hlookup, horder, hlisted, hpermuted⟩ := keys_sorted_map fun _ => False
  have htrue : Literal (Text.trim "true".toList) (.boolean true) := .truth (by decide +kernel)
  have hfalse : Literal (Text.trim "false".toList) (.boolean false) := .falsehood (by decide +kernel)
  have hw : w.Grammatical := {
    host_located := fun h => absurd rfl h
    space_unrooted := nofun
    space_colonless := nofun
    space_pointless := nofun
    className_identifier := by decide
    hosted := iff_of_false (fun h => h rfl) (by decide)
    host_slashless := nofun
    bindings_grammatical := List.forall_mem_cons.2
      ⟨⟨by decide +kernel, by decide, _, htrue⟩,
        List.forall_mem_singleton.2 ⟨by decide +kernel, by decide, _, hfalse⟩⟩
    names_distinct := List.pairwise_pair.2 (by decide +kernel) }
  have hdenotes : List.Forall₂ BindingText.Denotes w.bindings listed :=
    .cons (.intro (by decide +kernel) (.bare htrue))
      (.cons (.intro (by decide +kernel) (.bare hfalse)) .nil)
  have htext : w.text = Text.trim "Disk.b=true,A=false".toList := by decide +kernel
  have hbefore : KeyBinding.Before ⟨"A", .boolean false⟩ ⟨"b", .boolean true⟩ := by
    show compare (Text.fold "A") (Text.fold "b") = .lt
    decide +kernel
  have hkeys : listed.reverse.Pairwise KeyBinding.Before := List.pairwise_pair.2 hbefore
  have hdistinct := hkeys.imp KeyBinding.Before.sameName_eq_false
  obtain ⟨p, hp, hpkeys⟩ := hlisted w _ hw htext listed listed.reverse hdenotes (.swap ..)
  obtain ⟨p', hp', hswapped⟩ :=
    hpermuted w _ hw htext w.bindings.reverse "Disk.A=false,b=true" (.swap ..) (by decide +kernel)
  cases hp.symm.trans hp'
  rw [keys_withKeys_of_keyless hdistinct rfl, sortBindings_of_ascending hkeys] at hpkeys
  have hpArranged : p.Arranged := (harranged p (.parse hp)).1
  have hother : p.key? "a" = some (.boolean false) :=
    (key?_eq_some_iff (arranged_iff.1 hpArranged).2).2
      ⟨⟨"A", .boolean false⟩, by rw [hpkeys]; exact List.mem_cons_self, by decide +kernel, rfl⟩
  refine ⟨p, hp, hswapped, ?_, ?_, ?_, ?_⟩
  · exact horder _ (arranged_ofClass "Disk") listed listed.reverse
      (List.pairwise_pair.2 (by decide +kernel)) (.swap ..)
  · exact (harranged _ (.withKey (.parse hp) "B" fun _ h => by cases h)).1
  · exact (hlookup p hpArranged "B" (.text "x") "b").trans (if_pos (by decide +kernel))
  · exact ((hlookup p hpArranged "B" (.text "x") "a").trans (if_neg (by decide +kernel))).trans hother

end InstanceFilter.ObjectPath
