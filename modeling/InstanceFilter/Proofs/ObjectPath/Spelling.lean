/-
What is read is well spelled. The outline of a text comes from a grammatical writing, so its host,
namespace and names keep clear of the separators that would end them early, and a value without
quotes is a truth value or a number. What is not promised is the character a namespace starts with:
the slashes before it are stripped, and a blank behind them stays.
-/
import InstanceFilter.Proofs.ObjectPath.Grammar

namespace InstanceFilter.ObjectPath

/-! ## Bindings -/

/-- A value that was read without quotes is a truth value or a number. -/
def RawValue.Settled : RawValue → Prop
  | .quoted _ | .plain (.boolean _) | .plain (.integer _) => True
  | .plain (.text _) | .plain (.reference _) => False

/-- A binding as it can be read: its name is an identifier. -/
structure RawBinding.Spelled (b : RawBinding) : Prop where
  name_identifier : Text.isIdentifier b.name.toList = true
  value_settled : b.value.Settled

theorem settled_of_literal {token : List Char} {value : KeyValue} (h : Literal token value) :
    (RawValue.plain value).Settled := by
  cases h <;> trivial

theorem settled_of_yields {v : ValueText} {raw : RawValue} (h : v.Yields raw) : raw.Settled := by
  cases h with
  | quoted body => trivial
  | bare _ hvalue => exact settled_of_literal hvalue

theorem spelled_of_yields {b : BindingText} {raw : RawBinding} (h : b.Yields raw) :
    raw.Spelled where
  name_identifier := by
    rw [h.name_eq, BindingText.name, String.toList_ofList]
    exact h.name_identifier
  value_settled := settled_of_yields h.value_yields

theorem forall_spelled_of_yields {bindings : List BindingText} {raws : List RawBinding}
    (h : List.Forall₂ BindingText.Yields bindings raws) : ∀ raw ∈ raws, raw.Spelled := by
  induction h with
  | nil => exact nofun
  | cons hb _ ih => exact List.forall_mem_cons.2 ⟨spelled_of_yields hb, ih⟩

/-! ## Outlines -/

structure Outline.Spelled (o : Outline) : Prop extends HeadSpelled o.host o.space o.className where
  bindings_spelled : ∀ b ∈ o.bindings, b.Spelled

theorem exists_of_unslashed {slashed : Option (Nat × String)} {space : String}
    (h : unslashed slashed = some space) : space.toList ≠ [] ∧ ∃ n, slashed = some (n, space) := by
  unfold unslashed at h
  split at h
  · next n s =>
    split at h
    · cases h
    · next hne =>
      cases h
      exact ⟨mt String.toList_eq_nil_iff.1 hne, n, rfl⟩
  · cases h

/-- Whatever text an outline was read from, its parts are well spelled. -/
theorem spelled_of_readOutline {text : List Char} {o : Outline} (h : readOutline text = .ok o) :
    o.Spelled := by
  obtain ⟨w, hw, -, hyields⟩ := Writing.readOutline_eq_ok_iff.1 h
  obtain ⟨host, space, className, raws⟩ := o
  obtain ⟨rfl, rfl, rfl, hraws⟩ := hyields
  exact {
    className_identifier := hw.className_identifier
    host_slashless := hw.host_slashless
    host_located := hw.host_located
    space_nonempty := fun s hs => (exists_of_unslashed hs).1
    space_unrooted := fun s hs => by
      obtain ⟨-, n, hs⟩ := exists_of_unslashed hs
      exact hw.space_unrooted n s hs
    space_colonless := fun s hs => by
      obtain ⟨-, n, hs⟩ := exists_of_unslashed hs
      exact hw.space_colonless n s hs
    space_pointless := fun s hs => by
      obtain ⟨-, n, hs⟩ := exists_of_unslashed hs
      exact hw.space_pointless n s hs
    bindings_spelled := forall_spelled_of_yields hraws }

end InstanceFilter.ObjectPath
