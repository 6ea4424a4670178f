/-
Sameness of values. Doubles are the same when both are numbers and stand at one place, date-times
when they are of one form and at one instant; arrays of one kind are the same when they pair up
element by element, and references to properties link by link. So sameness is symmetric and
transitive, and an array is the same as itself if all its doubles are numbers.
-/
import InstanceFilter.Proofs.ObjectPath.Sameness
import InstanceFilter.Proofs.Value.Place
import Mathlib.Data.List.Forall2

namespace InstanceFilter

/-! ## Doubles and date-times -/

theorem double_beq_iff_place {x y : Float} : (x == y) = true ↔
    x.isNaN = false ∧ y.isNaN = false ∧
      placeUnpacked x.toModel.unpack = placeUnpacked y.toModel.unpack := by
  by_cases hnan : x.isNaN = true ∨ y.isNaN = true
  · refine iff_of_false (by rw [(compareDouble?_of_isNaN hnan).2]; exact Bool.false_ne_true) ?_
    rintro ⟨hx, hy, -⟩
    rw [hx, hy] at hnan
    rcases hnan with h | h <;> cases h
  · obtain ⟨hx, hy⟩ := not_or.1 hnan
    rw [Bool.not_eq_true] at hx hy
    rw [double_beq_eq hx hy, Ordering.isEq_iff_eq_eq, Std.compare_eq_iff_eq]
    exact ⟨fun h => ⟨hx, hy, h⟩, fun h => h.2.2⟩

theorem double_beq_symm {x y : Float} (h : (x == y) = true) : (y == x) = true := by
  obtain ⟨hx, hy, hplace⟩ := double_beq_iff_place.1 h
  exact double_beq_iff_place.2 ⟨hy, hx, hplace.symm⟩

theorem double_beq_trans {x y z : Float} (hxy : (x == y) = true) (hyz : (y == z) = true) :
    (x == z) = true := by
  obtain ⟨hx, -, hplace⟩ := double_beq_iff_place.1 hxy
  obtain ⟨-, hz, hplace'⟩ := double_beq_iff_place.1 hyz
  exact double_beq_iff_place.2 ⟨hx, hz, hplace.trans hplace'⟩

/-- Only what is not a number differs from itself. -/
theorem double_beq_self {x : Float} (h : x.isNaN = false) : (x == x) = true :=
  double_beq_iff_place.2 ⟨h, h, rfl⟩

namespace DateTime

theorem same_iff {d e : DateTime} :
    d.same e = true ↔ d.isInterval = e.isInterval ∧ d.normalized = e.normalized := by
  unfold same compare?
  by_cases hforms : d.isInterval = e.isInterval
  · rw [if_pos hforms, beq_iff_eq, Option.some_inj, Std.compare_eq_iff_eq]
    exact (and_iff_right hforms).symm
  · simp [hforms]

theorem same_self (d : DateTime) : d.same d = true := same_iff.2 ⟨rfl, rfl⟩

theorem same_symm {d e : DateTime} (h : d.same e = true) : e.same d = true := by
  obtain ⟨hforms, hinstants⟩ := same_iff.1 h
  exact same_iff.2 ⟨hforms.symm, hinstants.symm⟩

theorem same_trans {d e f : DateTime} (hde : d.same e = true) (hef : e.same f = true) :
    d.same f = true := by
  obtain ⟨hforms, hinstants⟩ := same_iff.1 hde
  obtain ⟨hforms', hinstants'⟩ := same_iff.1 hef
  exact same_iff.2 ⟨hforms.trans hforms', hinstants.trans hinstants'⟩

end DateTime

/-! ## Lists -/

section Lists

variable {α : Type} {same : α → α → Bool}

theorem sameList_iff {as bs : List α} :
    sameList same as bs = true ↔ List.Forall₂ (fun a b => same a b = true) as bs := by
  induction as generalizing bs with
  | nil => cases bs <;> simp [sameList]
  | cons a as ih => cases bs <;> simp [sameList, ih]

theorem sameList_self {items : List α} (h : ∀ a ∈ items, same a a = true) :
    sameList same items items = true :=
  sameList_iff.2 (List.forall₂_same.2 h)

variable (same)

theorem sameList_symm (h : ∀ {a b}, same a b = true → same b a = true) {as bs : List α}
    (hab : sameList same as bs = true) : sameList same bs as = true :=
  sameList_iff.2 ((sameList_iff.1 hab).imp fun _ _ => h).flip

theorem sameList_trans (h : ∀ {a b c}, same a b = true → same b c = true → same a c = true)
    {as bs cs : List α} (hab : sameList same as bs = true) (hbc : sameList same bs cs = true) :
    sameList same as cs = true := by
  rw [sameList_iff] at *
  induction hab generalizing cs with
  | nil => exact hbc
  | cons hab _ ih => cases hbc with
    | cons hbc hrest => exact .cons (h hab hbc) (ih hrest)

end Lists

/-! ## Arrays -/

namespace ArrayValue

variable {a b c : ArrayValue}

/-- Arrays are the same when they are of one kind and pair up element by element. -/
theorem same_iff : a.same b = true ↔
    a.kind = b.kind ∧ List.Forall₂ (fun v w => v.same w = true) a.elements b.elements := by
  cases a <;> cases b <;> simp [same, sameList_iff, kind, elements, Value.same]

theorem same_self (h : ∀ x, .double x ∈ a.elements → x.isNaN = false) : a.same a = true := by
  cases a with
  | double items =>
    exact sameList_self fun x hx => double_beq_self (h x (List.mem_map_of_mem hx))
  | dateTime items => exact sameList_self fun d _ => d.same_self
  | reference items => exact sameList_self fun path _ => path.same_self
  | _ => exact sameList_self fun _ _ => beq_self_eq_true _

theorem same_symm (h : a.same b = true) : b.same a = true := by
  unfold same at h
  split at h
  · exact sameList_symm (· == ·) BEq.symm h
  · exact sameList_symm (· == ·) double_beq_symm h
  · exact sameList_symm (· == ·) BEq.symm h
  · exact sameList_symm (· == ·) BEq.symm h
  · exact sameList_symm DateTime.same DateTime.same_symm h
  · exact sameList_symm ObjectPath.same ObjectPath.same_symm h
  · cases h

theorem same_trans (hab : a.same b = true) (hbc : b.same c = true) : a.same c = true := by
  unfold same at hab
  split at hab
  · cases c with
    | integer cs => exact sameList_trans (· == ·) BEq.trans hab hbc
    | _ => cases hbc
  · cases c with
    | double cs => exact sameList_trans (· == ·) double_beq_trans hab hbc
    | _ => cases hbc
  · cases c with
    | boolean cs => exact sameList_trans (· == ·) BEq.trans hab hbc
    | _ => cases hbc
  · cases c with
    | string cs => exact sameList_trans (· == ·) BEq.trans hab hbc
    | _ => cases hbc
  · cases c with
    | dateTime cs => exact sameList_trans DateTime.same DateTime.same_trans hab hbc
    | _ => cases hbc
  · cases c with
    | reference cs => exact sameList_trans ObjectPath.same ObjectPath.same_trans hab hbc
    | _ => cases hbc
  · cases hab

end ArrayValue

/-! ## Values -/

mutual

theorem Value.same_symm {v w : Value} (h : v.same w = true) : w.same v = true := by
  cases v with
  | null => cases w with
    | null => rfl
    | _ => cases h
  | integer n => cases w with
    | integer m => exact BEq.symm h
    | _ => cases h
  | double x => cases w with
    | double y => exact double_beq_symm h
    | _ => cases h
  | boolean b => cases w with
    | boolean c => exact BEq.symm h
    | _ => cases h
  | string s => cases w with
    | string t => exact BEq.symm h
    | _ => cases h
  | dateTime d => cases w with
    | dateTime e => exact DateTime.same_symm h
    | _ => cases h
  | reference path => cases w with
    | reference other => exact ObjectPath.same_symm h
    | _ => cases h
  | property ref => cases w with
    | property other => exact PropertyRef.same_symm h
    | _ => cases h
  | array items => cases w with
    | array others => exact ArrayValue.same_symm h
    | _ => cases h

theorem PropertyRef.same_symm {ref other : PropertyRef} (h : ref.same other = true) :
    other.same ref = true := by
  obtain ⟨name, index, chain⟩ := ref
  obtain ⟨name', index', chain'⟩ := other
  rw [PropertyRef.same, Bool.and_eq_true, Bool.and_eq_true] at h ⊢
  obtain ⟨⟨hname, hindex⟩, hchain⟩ := h
  exact ⟨⟨BEq.symm hname, BEq.symm hindex⟩, sameChain_symm hchain⟩

theorem sameChain_symm {chain other : List Value} (h : sameChain chain other = true) :
    sameChain other chain = true := by
  cases chain with
  | nil => cases other with
    | nil => rfl
    | cons link rest => cases h
  | cons link rest => cases other with
    | nil => cases h
    | cons link' rest' =>
      obtain ⟨hlink, hrest⟩ := Bool.and_eq_true_iff.1 h
      exact Bool.and_eq_true_iff.2 ⟨Value.same_symm hlink, sameChain_symm hrest⟩

end

mutual

theorem Value.same_trans {u v w : Value} (huv : u.same v = true) (hvw : v.same w = true) :
    u.same w = true := by
  cases u with
  | null => cases v with
    | null => exact hvw
    | _ => cases huv
  | integer k => cases v with
    | integer m => cases w with
      | integer n => exact BEq.trans huv hvw
      | _ => cases hvw
    | _ => cases huv
  | double x => cases v with
    | double y => cases w with
      | double z => exact double_beq_trans huv hvw
      | _ => cases hvw
    | _ => cases huv
  | boolean a => cases v with
    | boolean b => cases w with
      | boolean c => exact BEq.trans huv hvw
      | _ => cases hvw
    | _ => cases huv
  | string r => cases v with
    | string s => cases w with
      | string t => exact BEq.trans huv hvw
      | _ => cases hvw
    | _ => cases huv
  | dateTime d => cases v with
    | dateTime e => cases w with
      | dateTime f => exact DateTime.same_trans huv hvw
      | _ => cases hvw
    | _ => cases huv
  | reference path => cases v with
    | reference other => cases w with
      | reference third => exact ObjectPath.same_trans huv hvw
      | _ => cases hvw
    | _ => cases huv
  | property ref => cases v with
    | property other => cases w with
      | property third => exact PropertyRef.same_trans huv hvw
      | _ => cases hvw
    | _ => cases huv
  | array items => cases v with
    | array others => cases w with
      | array thirds => exact ArrayValue.same_trans huv hvw
      | _ => cases hvw
    | _ => cases huv
termination_by structural u

theorem PropertyRef.same_trans {ref other third : PropertyRef} (h : ref.same other = true)
    (h' : other.same third = true) : ref.same third = true := by
  obtain ⟨name, index, chain⟩ := ref
  obtain ⟨name', index', chain'⟩ := other
  obtain ⟨name'', index'', chain''⟩ := third
  rw [PropertyRef.same, Bool.and_eq_true, Bool.and_eq_true] at h h' ⊢
  obtain ⟨⟨hname, hindex⟩, hchain⟩ := h
  obtain ⟨⟨hname', hindex'⟩, hchain'⟩ := h'
  exact ⟨⟨BEq.trans hname hname', BEq.trans hindex hindex'⟩, sameChain_trans hchain hchain'⟩
termination_by structural ref

theorem sameChain_trans {chain other third : List Value} (h : sameChain chain other = true)
    (h' : sameChain other third = true) : sameChain chain third = true := by
  cases chain with
  | nil => cases other with
    | nil => exact h'
    | cons link' rest' => cases h
  | cons link rest => cases other with
    | nil => cases h
    | cons link' rest' => cases third with
      | nil => cases h'
      | cons link'' rest'' =>
        obtain ⟨hlink, hrest⟩ := Bool.and_eq_true_iff.1 h
        obtain ⟨hlink', hrest'⟩ := Bool.and_eq_true_iff.1 h'
        exact Bool.and_eq_true_iff.2
          ⟨Value.same_trans hlink hlink', sameChain_trans hrest hrest'⟩
termination_by structural chain

end

theorem PropertyRef.same_iff {ref other : PropertyRef} : ref.same other = true ↔
    (ref.name = other.name ∧ ref.index = other.index) ∧
      sameChain ref.chain other.chain = true := by
  obtain ⟨name, index, chain⟩ := ref
  obtain ⟨name', index', chain'⟩ := other
  rw [same, Bool.and_eq_true, Bool.and_eq_true, beq_iff_eq, beq_iff_eq]

section Same

variable {v w : Value} (h : v.same w = true)
include h

end Same

end InstanceFilter
