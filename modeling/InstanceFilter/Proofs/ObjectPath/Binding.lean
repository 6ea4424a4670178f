/-
Binding keys. The keys of a path, in ascending order, are a map from names in any case to values: a
key that is bound takes the place of what had its name, so what is looked up afterwards is the new
value under the new name and what it was before under any other. Keys in ascending order are told by
what they are, so it does not matter in which order keys of different names are bound.
-/
import InstanceFilter.Proofs.ObjectPath.Keys
import Mathlib.Data.List.Pairwise
import Mathlib.Tactic.ByContra

namespace InstanceFilter.ObjectPath

variable {p : ObjectPath} {name : String} {value : KeyValue}

/-- The path with keys bound one after the other. -/
def withKeys (p : ObjectPath) (keys : List KeyBinding) : ObjectPath :=
  keys.foldl (fun path b => path.withKey b.name b.value) p

/-! ## Ascending keys -/

/-- Of one name there is one key. -/
theorem eq_of_sameName {keys : List KeyBinding} (hkeys : keys.Pairwise KeyBinding.Before)
    {a b : KeyBinding} (ha : a ∈ keys) (hb : b ∈ keys) (h : Text.sameName a.name b.name = true) :
    a = b := by
  by_contra hne
  have : Std.Symm fun a b : KeyBinding => Text.sameName a.name b.name = false :=
    ⟨fun a b hab => (Text.sameName_comm b.name a.name).trans hab⟩
  rw [(hkeys.imp KeyBinding.Before.sameName_eq_false).forall ha hb hne] at h
  cases h

/-- Ascending keys are told by their members. -/
theorem eq_of_ascending {keys keys' : List KeyBinding} (h : keys.Pairwise KeyBinding.Before)
    (h' : keys'.Pairwise KeyBinding.Before) (hmem : ∀ b, b ∈ keys ↔ b ∈ keys') : keys = keys' := by
  have hnodup {keys : List KeyBinding} (h : keys.Pairwise KeyBinding.Before) : keys.Nodup := by
    refine h.imp fun hab heq => ?_
    have hself := hab.sameName_eq_false
    rw [heq, Text.sameName_self] at hself
    cases hself
  have hperm := (List.perm_ext_iff_of_nodup (hnodup h) (hnodup h')).2 hmem
  rw [← sortBindings_of_perm hperm h, sortBindings_of_ascending h']

/-! ## Binding one key -/

theorem mem_keys_withKey {b : KeyBinding} : b ∈ (p.withKey name value).keys ↔
    b ∈ p.keys ∧ Text.sameName b.name name = false ∨ b = ⟨name, value⟩ := by
  simp [withKey, mem_sortBindings]

theorem ascending_withKey (hkeys : p.keys.Pairwise KeyBinding.Before) (name : String)
    (value : KeyValue) : (p.withKey name value).keys.Pairwise KeyBinding.Before := by
  have hothers := (hkeys.imp KeyBinding.Before.sameName_eq_false).filter
    fun b => !Text.sameName b.name name
  refine ascending_sortBindings_iff.2 <| List.pairwise_append.2
    ⟨hothers, List.pairwise_singleton _ _, fun a ha b hb => ?_⟩
  rw [List.mem_singleton.1 hb]
  simpa using (List.mem_filter.1 ha).2

/-! ## Looking keys up -/

theorem key?_eq_none_iff :
    p.key? name = none ↔ ∀ b ∈ p.keys, Text.sameName b.name name = false := by
  simp only [key?, Option.map_eq_none_iff, List.find?_eq_none, Bool.not_eq_true]

theorem key?_eq_some_iff (hkeys : p.keys.Pairwise KeyBinding.Before) : p.key? name = some value ↔
    ∃ b ∈ p.keys, Text.sameName b.name name = true ∧ b.value = value := by
  have hnamed {b : KeyBinding} (h : p.keys.find? (fun b => Text.sameName b.name name) = some b) :
      Text.sameName b.name name = true :=
    List.find?_some (p := fun b : KeyBinding => Text.sameName b.name name) h
  unfold key?
  rw [Option.map_eq_some_iff]
  constructor
  · rintro ⟨b, hb, hvalue⟩
    exact ⟨b, List.mem_of_find?_eq_some hb, hnamed hb, hvalue⟩
  · rintro ⟨b, hb, hname, hvalue⟩
    cases hfind : p.keys.find? fun b => Text.sameName b.name name with
    | none => exact absurd hname (List.find?_eq_none.1 hfind b hb)
    | some found =>
      rw [Text.sameName_comm] at hname
      cases eq_of_sameName hkeys (List.mem_of_find?_eq_some hfind) hb
        (Text.sameName_trans (hnamed hfind) hname)
      exact ⟨b, rfl, hvalue⟩

/-- A key that was bound is found under its name, in any case, and the others are as before. -/
theorem key?_withKey (hkeys : p.keys.Pairwise KeyBinding.Before) (name : String) (value : KeyValue)
    (other : String) : (p.withKey name value).key? other =
      if Text.sameName other name then some value else p.key? other := by
  refine Option.ext fun found => ?_
  rw [key?_eq_some_iff (ascending_withKey hkeys name value)]
  simp only [mem_keys_withKey]
  split
  · next hsame =>
    constructor
    · rintro ⟨b, ⟨-, hne⟩ | rfl, hname, rfl⟩
      · rw [Text.sameName_trans hname hsame] at hne
        cases hne
      · rfl
    · rintro ⟨⟩
      exact ⟨_, .inr rfl, by rwa [Text.sameName_comm], rfl⟩
  · next hother =>
    rw [key?_eq_some_iff hkeys]
    constructor
    · rintro ⟨b, ⟨hb, -⟩ | rfl, hname, hvalue⟩
      · exact ⟨b, hb, hname, hvalue⟩
      · rw [Text.sameName_comm] at hname
        exact absurd hname hother
    · rintro ⟨b, hb, hname, hvalue⟩
      refine ⟨b, .inl ⟨hb, ?_⟩, hname, hvalue⟩
      rw [Bool.eq_false_iff]
      rw [Text.sameName_comm] at hname
      exact fun h => hother (Text.sameName_trans hname h)

/-! ## Binding many keys -/

/-- Keys leave the rest of a path as it is. -/
theorem withKeys_eq (p : ObjectPath) (keys : List KeyBinding) :
    p.withKeys keys = { p with keys := (p.withKeys keys).keys } := by
  induction keys generalizing p with
  | nil =>
    cases p
    rfl
  | cons b rest ih => exact ih (p.withKey b.name b.value)

theorem ascending_withKeys (hkeys : p.keys.Pairwise KeyBinding.Before) (keys : List KeyBinding) :
    (p.withKeys keys).keys.Pairwise KeyBinding.Before := by
  induction keys generalizing p with
  | nil => exact hkeys
  | cons b rest ih => exact ih (ascending_withKey hkeys b.name b.value)

section Distinct

variable {keys : List KeyBinding}
  (hdistinct : keys.Pairwise fun a b => Text.sameName a.name b.name = false)
include hdistinct

theorem mem_keys_withKeys {b : KeyBinding} : b ∈ (p.withKeys keys).keys ↔
    b ∈ keys ∨ b ∈ p.keys ∧ ∀ c ∈ keys, Text.sameName b.name c.name = false := by
  induction keys generalizing p with
  | nil => simp [withKeys]
  | cons c rest ih =>
    obtain ⟨hc, hrest⟩ := List.pairwise_cons.1 hdistinct
    obtain ⟨name, value⟩ := c
    show b ∈ ((p.withKey name value).withKeys rest).keys ↔ _
    rw [ih hrest, mem_keys_withKey, List.mem_cons, List.forall_mem_cons]
    constructor
    · rintro (hb | ⟨⟨hb, hne⟩ | rfl, hothers⟩)
      · exact .inl (.inr hb)
      · exact .inr ⟨hb, hne, hothers⟩
      · exact .inl (.inl rfl)
    · rintro ((rfl | hb) | ⟨hb, hne, hothers⟩)
      · exact .inr ⟨.inr rfl, hc⟩
      · exact .inl hb
      · exact .inr ⟨.inl ⟨hb, hne⟩, hothers⟩

/-- Keys of different names can be bound in any order. -/
theorem withKeys_perm (hkeys : p.keys.Pairwise KeyBinding.Before) {keys' : List KeyBinding}
    (hperm : keys'.Perm keys) : p.withKeys keys' = p.withKeys keys := by
  have hdistinct' := distinct_of_perm hperm.symm hdistinct
  have hsame : (p.withKeys keys').keys = (p.withKeys keys).keys := by
    refine eq_of_ascending (ascending_withKeys hkeys keys') (ascending_withKeys hkeys keys)
      fun b => ?_
    simp only [mem_keys_withKeys hdistinct, mem_keys_withKeys hdistinct', hperm.mem_iff]
  rw [withKeys_eq p keys', withKeys_eq p keys, hsame]

theorem keys_withKeys_of_keyless (hkeyless : p.keys = []) :
    (p.withKeys keys).keys = sortBindings keys := by
  have hkeys : p.keys.Pairwise KeyBinding.Before := by
    rw [hkeyless]
    exact .nil
  refine eq_of_ascending (ascending_withKeys hkeys keys) (ascending_sortBindings_iff.2 hdistinct)
    fun b => ?_
  rw [mem_keys_withKeys hdistinct, mem_sortBindings, hkeyless]
  simp

end Distinct

end InstanceFilter.ObjectPath
