/-
Keys in the order that a text lists them. What is grammatical is asked of each binding and of all
names together, and a path keeps its keys in the order of their names; so the bindings of a text can
be listed in any order, and what is read has the keys that binding them one by one would come to.
-/
import InstanceFilter.Proofs.ObjectPath.Binding
import InstanceFilter.Proofs.ObjectPath.Denotation
import Mathlib.Data.List.Perm.Basic

namespace InstanceFilter.ObjectPath

variable {w : Writing} {bindings : List BindingText}

/-! ## Writings with their bindings exchanged -/

/-- Whether a text starts with two slashes is settled by a part of it that ends in something else. -/
theorem slashes_prefix_append_iff {front back : List Char} (hne : front ≠ [])
    (hlast : front.getLast? ≠ some '/') :
    ['/', '/'] <+: front ++ back ↔ ['/', '/'] <+: front := by
  match front with
  | [] => exact absurd rfl hne
  | [c] =>
    have hc : c ≠ '/' := fun h => hlast (congrArg some h)
    simp [List.cons_prefix_cons, hc.symm]
  | c :: d :: rest => simp [List.cons_prefix_cons]

theorem Writing.Grammatical.permuted (h : w.Grammatical) (hperm : bindings.Perm w.bindings) :
    Writing.Grammatical { w with bindings := bindings } := by
  have hne : w.className.toList ≠ [] := by
    intro hempty
    have hclass := h.className_identifier
    rw [hempty] at hclass
    cases hclass
  have hlast : w.className.toList.getLast? ≠ some '/' := fun hslash =>
    Text.not_mem_of_isIdentifier h.className_identifier (c := '/') (by decide)
      (List.mem_of_getLast? hslash)
  -- the class name stands between the slashes and the bindings
  have hslashes (bindings : List BindingText) :
      ['/', '/'] <+: Writing.text { w with bindings := bindings } ↔
        ['/', '/'] <+: hostText w.host ++ (slashedText w.space ++ w.className.toList) := by
    have htext : Writing.text { w with bindings := bindings } =
        (hostText w.host ++ (slashedText w.space ++ w.className.toList)) ++
          bindingsText '.' bindings := by
      simp [Writing.text, Writing.tail, Writing.classText]
    rw [htext]
    refine slashes_prefix_append_iff (by simp [hne]) ?_
    rwa [List.getLast?_append_of_ne_nil _ (by simp [hne]), List.getLast?_append_of_ne_nil _ hne]
  exact { h with
    hosted := h.hosted.trans ((hslashes w.bindings).trans (hslashes bindings).symm)
    bindings_grammatical := fun b hb => h.bindings_grammatical b (hperm.mem_iff.1 hb)
    names_distinct := h.names_distinct.perm hperm.symm fun hab => by rwa [Text.sameName_comm] }

/-! ## What is read of them -/

/-- The keys that a text lists have the names that it lists. -/
theorem names_of_denotes {listed : List KeyBinding}
    (h : List.Forall₂ BindingText.Denotes bindings listed) :
    listed.map KeyBinding.name = bindings.map BindingText.name := by
  induction h with
  | nil => rfl
  | cons hb _ ih =>
    obtain ⟨hname, -⟩ := hb
    rw [List.map_cons, List.map_cons, hname, ih]

theorem distinct_of_denotes (hw : w.Grammatical) {listed : List KeyBinding}
    (h : List.Forall₂ BindingText.Denotes w.bindings listed) :
    listed.Pairwise fun a b => Text.sameName a.name b.name = false := by
  have hnames : (w.bindings.map BindingText.name).Pairwise fun a b => Text.sameName a b = false :=
    List.pairwise_map.2 hw.names_distinct
  rw [← names_of_denotes h] at hnames
  exact List.pairwise_map.1 hnames

/-- A text that lists keys reads as a path with these keys, whatever order they are listed in. -/
theorem parse_of_listed {text : String} (hw : w.Grammatical) (htext : w.text = Text.trim text.toList)
    {listed keys : List KeyBinding} (hlisted : List.Forall₂ BindingText.Denotes w.bindings listed)
    (hperm : listed.Perm keys) :
    parse text = .ok ⟨w.host, w.space?, w.className, sortBindings keys⟩ := by
  have hdistinct := distinct_of_perm hperm (distinct_of_denotes hw hlisted)
  exact (parseChars_eq_ok_iff hw htext).2
    (.intro hlisted ((perm_sortBindings keys).trans hperm.symm)
      (ascending_sortBindings_iff.2 hdistinct))

theorem exists_listed {text : String} (hw : w.Grammatical) (htext : w.text = Text.trim text.toList) :
    ∃ listed, List.Forall₂ BindingText.Denotes w.bindings listed := by
  obtain ⟨p, hp⟩ := exists_parseChars_iff.2 ⟨w, hw, htext⟩
  obtain ⟨hlisted, -, -⟩ := (parseChars_eq_ok_iff hw htext).1 hp
  exact ⟨_, hlisted⟩

/-- The bindings of a text can be listed in any order. -/
theorem parse_permuted {text text' : String} (hw : w.Grammatical)
    (htext : w.text = Text.trim text.toList) (hperm : bindings.Perm w.bindings)
    (htext' : Writing.text { w with bindings := bindings } = Text.trim text'.toList) :
    ∃ p, parse text = .ok p ∧ parse text' = .ok p := by
  obtain ⟨listed, hlisted⟩ := exists_listed hw htext
  obtain ⟨listed', hlisted', hperm'⟩ := List.perm_comp_forall₂ hperm hlisted
  exact ⟨_, parse_of_listed hw htext hlisted (.refl _),
    parse_of_listed (hw.permuted hperm) htext' hlisted' hperm'⟩

end InstanceFilter.ObjectPath
