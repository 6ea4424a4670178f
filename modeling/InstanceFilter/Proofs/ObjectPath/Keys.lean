/-
The keys of a path in order. Sorting leaves names that ascend where they are, and sorted keys in
which no name repeats the one before it ascend; so a path can be made of an outline exactly when the
names differ, and the order of its keys depends on nothing else.
-/
import InstanceFilter.Proofs.ObjectPath.Nesting

namespace InstanceFilter

namespace Text

theorem nameLe_trans (a b c : String) (hab : nameLe a b = true) (hbc : nameLe b c = true) :
    nameLe a c = true :=
  Std.TransCmp.isLE_trans hab hbc

theorem nameLe_total (a b : String) : (nameLe a b || nameLe b a) = true := by
  have hswap : compare (fold b) (fold a) = (compare (fold a) (fold b)).swap :=
    Std.OrientedOrd.eq_swap
  unfold nameLe
  rw [hswap]
  cases compare (fold a) (fold b) <;> rfl

end Text

namespace KeyBinding.Before

theorem nameLe {a b : KeyBinding} (h : a.Before b) : Text.nameLe a.name b.name = true :=
  Ordering.isLE_of_eq_lt h

theorem trans {a b c : KeyBinding} (hab : a.Before b) (hbc : b.Before c) : a.Before c :=
  Std.TransCmp.lt_trans hab hbc

theorem sameName_eq_false {a b : KeyBinding} (h : a.Before b) :
    Text.sameName a.name b.name = false := by
  refine Bool.eq_false_iff.2 fun hsame => ?_
  have heq := Std.LawfulEqOrd.compare_eq_iff_eq.2 (Text.sameName_iff.1 hsame)
  exact absurd (heq.symm.trans h) (by decide)

theorem of_nameLe {a b : KeyBinding} (h : Text.nameLe a.name b.name = true)
    (hne : Text.sameName a.name b.name = false) : a.Before b := by
  rcases Ordering.isLE_iff_eq_lt_or_eq_eq.1 h with hlt | heq
  · exact hlt
  · rw [Text.sameName_iff.2 (Std.LawfulEqOrd.compare_eq_iff_eq.1 heq)] at hne
    cases hne

end KeyBinding.Before

namespace ObjectPath

/-! ## Sorting -/

theorem sortBindings_of_ascending {keys : List KeyBinding} (h : keys.Pairwise KeyBinding.Before) :
    sortBindings keys = keys :=
  List.mergeSort_of_pairwise (h.imp KeyBinding.Before.nameLe)

theorem pairwise_sortBindings (keys : List KeyBinding) :
    (sortBindings keys).Pairwise fun a b => Text.nameLe a.name b.name = true := by
  have htrans (a b c : KeyBinding) (hab : Text.nameLe a.name b.name = true)
      (hbc : Text.nameLe b.name c.name = true) : Text.nameLe a.name c.name = true :=
    Text.nameLe_trans a.name b.name c.name hab hbc
  have htotal (a b : KeyBinding) :
      (Text.nameLe a.name b.name || Text.nameLe b.name a.name) = true :=
    Text.nameLe_total a.name b.name
  exact List.pairwise_mergeSort htrans htotal keys

theorem mem_sortBindings {keys : List KeyBinding} {b : KeyBinding} :
    b ∈ sortBindings keys ↔ b ∈ keys :=
  List.mem_mergeSort

theorem perm_sortBindings (keys : List KeyBinding) : (sortBindings keys).Perm keys :=
  List.mergeSort_perm keys _

/-- Names that differ do so in any order. -/
theorem distinct_of_perm {keys keys' : List KeyBinding} (hperm : keys.Perm keys')
    (h : keys.Pairwise fun a b => Text.sameName a.name b.name = false) :
    keys'.Pairwise fun a b => Text.sameName a.name b.name = false :=
  h.perm hperm fun hab => by rwa [Text.sameName_comm]

/-- Sorted keys ascend when no two of their names are the same. -/
theorem ascending_sortBindings_iff {keys : List KeyBinding} :
    (sortBindings keys).Pairwise KeyBinding.Before ↔
      keys.Pairwise fun a b => Text.sameName a.name b.name = false := by
  -- sorting only moves bindings about, so the names may be told apart in the order they are given
  constructor
  · intro h
    exact distinct_of_perm (perm_sortBindings keys) (h.imp KeyBinding.Before.sameName_eq_false)
  · intro h
    have hdistinct := distinct_of_perm (perm_sortBindings keys).symm h
    exact ((pairwise_sortBindings keys).and hdistinct).imp fun h => .of_nameLe h.1 h.2

/-- There is one order in which keys ascend. -/
theorem sortBindings_of_perm {keys sorted : List KeyBinding} (hperm : sorted.Perm keys)
    (hsorted : sorted.Pairwise KeyBinding.Before) : sortBindings keys = sorted := by
  have hsorting := (perm_sortBindings keys).trans hperm.symm
  have hascending : (sortBindings keys).Pairwise KeyBinding.Before :=
    ascending_sortBindings_iff.2
      (distinct_of_perm hperm (hsorted.imp KeyBinding.Before.sameName_eq_false))
  refine List.Perm.eq_of_pairwise (fun a b _ _ hab hba => ?_) hascending hsorted hsorting
  have hself : Text.sameName a.name a.name = false := (hab.trans hba).sameName_eq_false
  rw [Text.sameName_self] at hself
  cases hself

/-! ## Repeated names -/

theorem repeatedName?_of_ascending {keys : List KeyBinding} (h : keys.Pairwise KeyBinding.Before) :
    repeatedName? keys = none := by
  fun_induction repeatedName? keys with
  | case1 a b rest hsame =>
    have hab := List.rel_of_pairwise_cons h List.mem_cons_self
    rw [hab.sameName_eq_false] at hsame
    cases hsame
  | case2 a b rest _ ih => exact ih h.of_cons
  | case3 => rfl

/-- Neighbours that are in order and differ in name put the whole list in strict order. -/
theorem ascending_of_repeatedName? {keys : List KeyBinding}
    (hle : keys.Pairwise fun a b => Text.nameLe a.name b.name = true)
    (h : repeatedName? keys = none) : keys.Pairwise KeyBinding.Before := by
  fun_induction repeatedName? keys with
  | case1 => cases h
  | case2 a b rest hsame ih =>
    have hrest := ih hle.of_cons h
    have hab : a.Before b :=
      .of_nameLe (List.rel_of_pairwise_cons hle List.mem_cons_self) (Bool.eq_false_iff.2 hsame)
    refine List.pairwise_cons.2 ⟨fun c hc => ?_, hrest⟩
    rcases List.mem_cons.1 hc with rfl | hc
    · exact hab
    · exact hab.trans (List.rel_of_pairwise_cons hrest hc)
  | case3 keys hkeys =>
    match keys, hkeys with
    | [], _ => exact .nil
    | [a], _ => exact List.pairwise_singleton _ a
    | a :: b :: rest, hkeys => exact absurd rfl (hkeys a b rest)

/-! ## Outlines with keys -/

theorem ofOutline_of_ascending (outline : Outline) {keys : List KeyBinding}
    (h : keys.Pairwise KeyBinding.Before) :
    ofOutline outline keys = .ok ⟨outline.host, outline.space, outline.className, keys⟩ := by
  simp only [ofOutline, sortBindings_of_ascending h, repeatedName?_of_ascending h]

/-- A path made of an outline has its parts, and the keys in ascending order. -/
theorem ofOutline_eq_ok_iff {outline : Outline} {keys : List KeyBinding} {p : ObjectPath} :
    ofOutline outline keys = .ok p ↔
      p = ⟨outline.host, outline.space, outline.className, sortBindings keys⟩ ∧
        (sortBindings keys).Pairwise KeyBinding.Before := by
  constructor
  · intro h
    unfold ofOutline at h
    simp only at h
    split at h
    · cases h
    · next hr =>
      cases h
      exact ⟨rfl, ascending_of_repeatedName? (pairwise_sortBindings keys) hr⟩
  · rintro ⟨rfl, hascending⟩
    simp only [ofOutline, repeatedName?_of_ascending hascending]

end ObjectPath

end InstanceFilter
