/-
A path that comes back the same comes back unchanged, whatever it is made of. What is read is well
spelled; a path that is the same as it, up to the case of names, is then well spelled as well, since
no separator is a letter; and of such a path it is known what its text reads as.
-/
import InstanceFilter.Proofs.ObjectPath.RoundTrip
import InstanceFilter.Proofs.Text.Folding
import Mathlib.Data.List.Forall2

namespace InstanceFilter.ObjectPath

/-! ## Spelling is the same for the same names -/

section Names

variable {a b : String}

theorem isIdentifier_of_sameName (h : Text.sameName a b = true) :
    Text.isIdentifier a.toList = Text.isIdentifier b.toList := by
  rw [← Text.isIdentifier_fold, ← Text.isIdentifier_fold, Text.sameName_iff.1 h]

theorem mem_iff_of_sameName {c : Char} (hc : c.isAlpha = false) (h : Text.sameName a b = true) :
    c ∈ a.toList ↔ c ∈ b.toList := by
  rw [← Text.mem_fold_iff hc, ← Text.mem_fold_iff hc, Text.sameName_iff.1 h]

theorem head?_iff_of_sameName {c : Char} (hc : c.isAlpha = false) (h : Text.sameName a b = true) :
    a.toList.head? = some c ↔ b.toList.head? = some c := by
  rw [← Text.head?_fold_eq_some_iff hc, ← Text.head?_fold_eq_some_iff hc, Text.sameName_iff.1 h]

theorem eq_nil_iff_of_sameName (h : Text.sameName a b = true) : a.toList = [] ↔ b.toList = [] := by
  rw [← Text.fold_eq_nil_iff, ← Text.fold_eq_nil_iff, Text.sameName_iff.1 h]

end Names

theorem sameClass_of_same {p q : ObjectPath} (h : q.same p = true) :
    Text.sameName q.className p.className = true := by
  obtain ⟨host, space, className, keys⟩ := p
  obtain ⟨host', space', className', keys'⟩ := q
  simp only [same, Bool.and_eq_true] at h
  exact h.1.2

theorem headSpelled_of_same {p q : ObjectPath} (h : q.same p = true)
    (hq : HeadSpelled q.host q.space q.className) : HeadSpelled p.host p.space p.className := by
  obtain ⟨hhost, hspace, -⟩ := same_parts h
  have hslash : '/'.isAlpha = false := by decide
  have hpart {part part' : Option String} (h : Text.sameName? part' part = true) {s : String}
      (hs : part = some s) : ∃ t, part' = some t ∧ Text.sameName t s = true :=
    exists_of_sameName?_some (hs ▸ h)
  have hspaced (s : String) (hs : p.space = some s) := hpart hspace hs
  exact {
    className_identifier := by
      rw [← isIdentifier_of_sameName (sameClass_of_same h)]
      exact hq.className_identifier
    host_slashless := fun s hs => by
      obtain ⟨t, ht, hname⟩ := hpart hhost hs
      rw [← mem_iff_of_sameName hslash hname]
      exact hq.host_slashless t ht
    host_located := fun hne hnone => by
      rw [hnone] at hspace
      obtain ⟨s, hs⟩ := Option.ne_none_iff_exists'.1 hne
      obtain ⟨t, ht, -⟩ := hpart hhost hs
      exact hq.host_located (by rw [ht]; exact nofun) (eq_none_of_sameName? hspace)
    space_nonempty := fun s hs => by
      obtain ⟨t, ht, hname⟩ := hspaced s hs
      rw [ne_eq, ← eq_nil_iff_of_sameName hname]
      exact hq.space_nonempty t ht
    space_unrooted := fun s hs => by
      obtain ⟨t, ht, hname⟩ := hspaced s hs
      rw [ne_eq, ← head?_iff_of_sameName hslash hname]
      exact hq.space_unrooted t ht
    space_colonless := fun s hs => by
      obtain ⟨t, ht, hname⟩ := hspaced s hs
      rw [← mem_iff_of_sameName (by decide) hname]
      exact hq.space_colonless t ht
    space_pointless := fun s hs => by
      obtain ⟨t, ht, hname⟩ := hspaced s hs
      rw [← mem_iff_of_sameName (by decide) hname]
      exact hq.space_pointless t ht }

/-! ## Keys that pair up -/

theorem forall₂_of_sameBindings {as bs : List KeyBinding} (h : sameBindings as bs = true) :
    List.Forall₂ (fun a b => Text.sameName a.name b.name = true ∧ a.value.same b.value = true)
      as bs := by
  induction as generalizing bs with
  | nil =>
    cases bs with
    | nil => exact .nil
    | cons b bs => simp [sameBindings] at h
  | cons a as ih =>
    cases bs with
    | nil => simp [sameBindings] at h
    | cons b bs =>
      simp only [sameBindings_cons, Bool.and_eq_true] at h
      exact .cons h.1 (ih h.2)

/-- Keys that pair up have the same names in the same order. -/
theorem names_of_sameBindings {as bs : List KeyBinding} (h : sameBindings as bs = true) :
    as.map (Text.fold ·.name) = bs.map (Text.fold ·.name) := by
  replace h := forall₂_of_sameBindings h
  induction h with
  | nil => rfl
  | cons hab _ ih => rw [List.map_cons, List.map_cons, Text.sameName_iff.1 hab.1, ih]

theorem exists_of_sameBindings {as bs : List KeyBinding} (h : sameBindings as bs = true)
    {b : KeyBinding} (hb : b ∈ bs) :
    ∃ a ∈ as, Text.sameName a.name b.name = true ∧ a.value.same b.value = true := by
  replace h := forall₂_of_sameBindings h
  induction h with
  | nil => cases hb
  | cons hab _ ih =>
    rcases List.mem_cons.1 hb with rfl | hb
    · exact ⟨_, List.mem_cons_self, hab⟩
    · obtain ⟨a, ha, hsame⟩ := ih hb
      exact ⟨a, List.mem_cons_of_mem _ ha, hsame⟩

theorem ascending_iff_names {keys : List KeyBinding} :
    keys.Pairwise KeyBinding.Before ↔
      (keys.map (Text.fold ·.name)).Pairwise fun a b => compare a b = .lt := by
  rw [List.pairwise_map]
  rfl

theorem spelled_of_same {p q : ObjectPath} (h : q.same p = true) (hq : q.Spelled) : p.Spelled := by
  obtain ⟨-, -, hkeys⟩ := same_parts h
  refine ⟨headSpelled_of_same h hq.toHeadSpelled, fun b hb => ?_, ?_⟩
  · obtain ⟨a, ha, hname, -⟩ := exists_of_sameBindings hkeys hb
    rw [← isIdentifier_of_sameName hname]
    exact hq.keys_identifiers a ha
  · rw [ascending_iff_names, ← names_of_sameBindings hkeys, ← ascending_iff_names]
    exact hq.keys_ascending

theorem forall_spelled_of_same {p q : ObjectPath} (h : q.same p = true)
    (hq : ∀ r : ObjectPath, r.Within q → r.Spelled) : ∀ r : ObjectPath, r.Within p → r.Spelled := by
  induction p using induction_references generalizing q with
  | step p ih =>
    obtain ⟨hspelled, hinside⟩ := forall_within_iff.1 hq
    refine forall_within_iff.2 ⟨spelled_of_same h hspelled, fun b hb r hr => ?_⟩
    obtain ⟨a, ha, -, hvalue⟩ := exists_of_sameBindings (same_parts h).2.2 hb
    rw [hr] at hvalue
    cases hv : a.value with
    | reference r' =>
      rw [hv] at hvalue
      exact ih b hb r hr (by simpa [KeyValue.same] using hvalue) (hinside a ha r' hv)
    | text s => simp [hv, KeyValue.same] at hvalue
    | boolean b => simp [hv, KeyValue.same] at hvalue
    | integer n => simp [hv, KeyValue.same] at hvalue

/-! ## Paths that come back -/

/-- The text of the path reads as a path that is the same. -/
def ComesBack (p : ObjectPath) : Prop := ∃ q, parse p.toText = .ok q ∧ q.same p = true

/-- A path that comes back the same comes back unchanged. -/
theorem parse_toText_of_comesBack {p : ObjectPath} (h : p.ComesBack) : parse p.toText = .ok p := by
  obtain ⟨q, hq, hsame⟩ := h
  rw [parse_toText] at hq
  obtain ⟨hread, -⟩ := spelled_and_faithful_of_parseChars hq
  have hspelled := forall_spelled_of_same hsame hread
  obtain ⟨hanchored, hfaithful⟩ := anchored_and_faithful_of_same hspelled ⟨q, hq, hsame⟩
  rw [parse_toText]
  exact parseChars_render_of_faithful (fun r hr => ⟨hspelled r hr, hanchored r hr⟩) hfaithful

end InstanceFilter.ObjectPath
