/-
Paths inside paths. A reference bound to a key holds a path of its own, so what a path writes down
depends on every path within it; facts about all of those are proved by induction over the
references, and what is asked of a path to keep its text readable is asked of each path within it.
-/
import InstanceFilter.ObjectPath.Parser
import InstanceFilter.ObjectPath.Printer

namespace InstanceFilter

/-- A value that is told from the others by its text: a string that is no keyed path, a reference
that is one, a truth value or a number. -/
def KeyValue.Distinct : KeyValue → Prop
  | .text s => ¬ ('=' ∈ s.toList ∧ ∃ r, ObjectPath.parse s = .ok r ∧ r.keys ≠ [])
  | .reference r => r.keys ≠ []
  | .boolean _ | .integer _ => True

/-- The first name comes before the second, in any case of their ASCII letters. -/
def KeyBinding.Before (a b : KeyBinding) : Prop :=
  compare (Text.fold a.name) (Text.fold b.name) = .lt

namespace ObjectPath

/-! ## Paths within a path -/

/-- The path `q` is the other path, or stands in one of its references at any depth. -/
inductive Within (q : ObjectPath) : ObjectPath → Prop
  | self : Within q q
  | inside {p r : ObjectPath} {b : KeyBinding} :
      b ∈ p.keys → b.value = .reference r → Within q r → Within q p

theorem sizeOf_lt_of_reference {p r : ObjectPath} {b : KeyBinding} (hb : b ∈ p.keys)
    (hr : b.value = .reference r) : sizeOf r < sizeOf p := by
  have hmem := List.sizeOf_lt_of_mem hb
  obtain ⟨host, space, className, keys⟩ := p
  obtain ⟨name, value⟩ := b
  simp only at hr hmem
  subst hr
  simp only [KeyBinding.mk.sizeOf_spec, KeyValue.reference.sizeOf_spec, mk.sizeOf_spec] at *
  omega

/-- What holds of a path whenever it holds of the paths in its references holds of every path. -/
theorem induction_references {motive : ObjectPath → Prop}
    (step : ∀ p, (∀ b ∈ p.keys, ∀ r, b.value = .reference r → motive r) → motive p)
    (p : ObjectPath) : motive p :=
  step p fun _ hb r hr =>
    have := sizeOf_lt_of_reference hb hr
    induction_references step r
termination_by sizeOf p

theorem forall_within_iff {P : ObjectPath → Prop} {p : ObjectPath} :
    (∀ q, q.Within p → P q) ↔
      P p ∧ ∀ b ∈ p.keys, ∀ r, b.value = .reference r → ∀ q, q.Within r → P q := by
  constructor
  · intro h
    exact ⟨h p .self, fun b hb r hr q hq => h q (.inside hb hr hq)⟩
  · rintro ⟨hp, hr⟩ q hq
    cases hq with
    | self => exact hp
    | inside hb hr' hq => exact hr _ hb _ hr' q hq

/-! ## Paths whose text can be read -/

/-- The parts before the keys, each spelled so that the separator after it is the first of its
kind: a host up to a slash, a namespace up to a colon that no point precedes, a class name. -/
structure HeadSpelled (host space : Option String) (className : String) : Prop where
  className_identifier : Text.isIdentifier className.toList = true
  host_slashless : ∀ h, host = some h → '/' ∉ h.toList
  host_located : host ≠ none → space ≠ none
  space_nonempty : ∀ s, space = some s → s.toList ≠ []
  space_unrooted : ∀ s, space = some s → s.toList.head? ≠ some '/'
  space_colonless : ∀ s, space = some s → ':' ∉ s.toList
  space_pointless : ∀ s, space = some s → '.' ∉ s.toList

/-- The path's own names are spelled as in a text that was read, its keys in ascending order. -/
structure Spelled (p : ObjectPath) : Prop extends HeadSpelled p.host p.space p.className where
  keys_identifiers : ∀ b ∈ p.keys, Text.isIdentifier b.name.toList = true
  keys_ascending : p.keys.Pairwise KeyBinding.Before

/-- The text does not start with a blank: without a host, the namespace does not. -/
def Anchored (p : ObjectPath) : Prop :=
  p.host = none → ∀ s, p.space = some s → ∀ c ∈ s.toList.head?, Text.isBlank c = false

/-- Every path within is spelled so that its text can be read, and starts with no blank. -/
def WellShaped (p : ObjectPath) : Prop := ∀ q : ObjectPath, q.Within p → q.Spelled ∧ q.Anchored

/-- No string within reads as a reference, and no reference within as a string. -/
def Faithful (p : ObjectPath) : Prop :=
  ∀ q : ObjectPath, q.Within p → ∀ b ∈ q.keys, b.value.Distinct

end ObjectPath

end InstanceFilter
