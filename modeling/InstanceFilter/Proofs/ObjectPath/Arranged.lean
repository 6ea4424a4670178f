/-
Paths in order. The keys stand in the order of their names, and a host stands with a namespace, which
starts with no slash. Placing a path, binding a key and giving its class another name leave it so.
-/
import InstanceFilter.Proofs.ObjectPath.Binding
import InstanceFilter.Proofs.ObjectPath.Reading
import InstanceFilter.Proofs.Text.Bytes

namespace InstanceFilter.ObjectPath

/-! ## Arranged paths -/

/-- A host stands with a namespace, and a namespace is not empty and starts with no slash. -/
structure Located (host space : Option String) : Prop where
  host_located : host ≠ none → space ≠ none
  space_nonempty : ∀ s, space = some s → s.toList ≠ []
  space_unrooted : ∀ s, space = some s → s.toList.head? ≠ some '/'

/-- The keys stand in the order of the bytes of their names, ASCII letters in lower case, and no two
of them have one name. -/
structure Arranged (p : ObjectPath) : Prop extends Located p.host p.space where
  keys_ascending : p.keys.Pairwise fun a b =>
    compare ((Text.bytes a.name).map Text.foldByte) ((Text.bytes b.name).map Text.foldByte) = .lt
  keys_distinct : p.keys.Pairwise fun a b => Text.sameName a.name b.name = false

variable {p q : ObjectPath}

theorem arranged_iff :
    p.Arranged ↔ Located p.host p.space ∧ p.keys.Pairwise KeyBinding.Before := by
  have hbytes : (p.keys.Pairwise fun a b => compare ((Text.bytes a.name).map Text.foldByte)
      ((Text.bytes b.name).map Text.foldByte) = .lt) ↔ p.keys.Pairwise KeyBinding.Before := by
    simp only [Text.compare_fold]
    rfl
  constructor
  · intro h
    exact ⟨h.toLocated, hbytes.1 h.keys_ascending⟩
  · rintro ⟨hlocated, hkeys⟩
    exact ⟨hlocated, hbytes.2 hkeys, hkeys.imp KeyBinding.Before.sameName_eq_false⟩

/-- Only what is left of a namespace without its slashes becomes part of a path. -/
theorem located_of_namespace? {host : Option String} {text : String}
    (h : host ≠ none → namespace? text ≠ none) : Located host (namespace? text) := by
  have hspace (s : String) (hs : namespace? text = some s) :
      s.toList ≠ [] ∧ s.toList.head? ≠ some '/' := by
    rw [← String.ofList_toList (s := text)] at hs
    obtain ⟨hne, hunrooted, -⟩ := of_namespace? hs
    exact ⟨hne, hunrooted⟩
  exact ⟨h, fun s hs => (hspace s hs).1, fun s hs => (hspace s hs).2⟩

/-! ## Steps -/

theorem arranged_ofClass (className : String) : (ofClass className).Arranged :=
  arranged_iff.2 ⟨⟨fun h => absurd rfl h, nofun, nofun⟩, .nil⟩

theorem atLocation_eq_ok_iff {host text : String} :
    p.atLocation host text = .ok q ↔ namespace? text ≠ none ∧
      q = { p with host := some host, space := namespace? text } := by
  unfold atLocation
  cases namespace? text with
  | none => exact ⟨nofun, fun h => absurd rfl h.1⟩
  | some space => exact ⟨fun h => ⟨nofun, (Except.ok.inj h).symm⟩, fun h => congrArg _ h.2.symm⟩

theorem Arranged.atLocation {host text : String} (hp : p.Arranged)
    (hq : p.atLocation host text = .ok q) : q.Arranged := by
  obtain ⟨hspace, rfl⟩ := atLocation_eq_ok_iff.1 hq
  exact arranged_iff.2 ⟨located_of_namespace? fun _ => hspace, (arranged_iff.1 hp).2⟩

theorem inNamespace_eq (p : ObjectPath) (text : String) :
    p.inNamespace text = p ∨ namespace? text ≠ none ∧
      p.inNamespace text = { p with space := namespace? text } := by
  unfold inNamespace
  cases namespace? text with
  | none => exact .inl rfl
  | some space => exact .inr ⟨nofun, rfl⟩

theorem keys_inNamespace (p : ObjectPath) (text : String) : (p.inNamespace text).keys = p.keys := by
  rcases inNamespace_eq p text with h | ⟨-, h⟩ <;> rw [h]

theorem Arranged.inNamespace (hp : p.Arranged) (text : String) : (p.inNamespace text).Arranged := by
  rcases inNamespace_eq p text with h | ⟨hspace, h⟩
  · rwa [h]
  · rw [h]
    exact arranged_iff.2 ⟨located_of_namespace? fun _ => hspace, (arranged_iff.1 hp).2⟩

theorem Arranged.withKey (hp : p.Arranged) (name : String) (value : KeyValue) :
    (p.withKey name value).Arranged :=
  arranged_iff.2 ⟨hp.toLocated, ascending_withKey (arranged_iff.1 hp).2 name value⟩

theorem Arranged.renamed (hp : p.Arranged) (className : String) :
    Arranged { p with className := className } :=
  arranged_iff.2 ⟨hp.toLocated, (arranged_iff.1 hp).2⟩

theorem Spelled.arranged (hp : p.Spelled) : p.Arranged :=
  arranged_iff.2
    ⟨⟨hp.host_located, hp.space_nonempty, hp.space_unrooted⟩, hp.keys_ascending⟩

end InstanceFilter.ObjectPath
