/-
Sets of characters as lists of edges: the code points, in ascending order, where a member follows a
code point that is none or the other way round. Every set has one such list, so equal sets are equal
values, and each operation on two sets is one sweep over their edges. The main statements say what
the operations do to membership.
-/
import InstanceFilter.Unicode.CaseOrbit

namespace InstanceFilter.Unicode

structure CharSet where
  edges : List Nat
  ascending : edges.Pairwise (· < ·)
  deriving Repr, DecidableEq

namespace CharSet

/-! ## Sweeping over edges -/

/-- Whether a code point is inside, beyond edges that start from inside or from outside. -/
def within (inside : Bool) : List Nat → Nat → Bool
  | [], _ => inside
  | e :: es, point => if point < e then inside else within (!inside) es point

/-- The first edge of a combined set, left out where the combination does not change there. -/
def emit (before after : Bool) (e : Nat) (es : List Nat) : List Nat :=
  if before = after then es else e :: es

/-- The edges of the set that `f` makes of two sets, from a place inside or outside of each. -/
def sweep (f : Bool → Bool → Bool) (p q : Bool) : List Nat → List Nat → List Nat
  | [], bs => if f p true = f p false then [] else bs
  | as, [] => if f true q = f false q then [] else as
  | a :: as, b :: bs =>
    if a < b then emit (f p q) (f (!p) q) a (sweep f (!p) q as (b :: bs))
    else if b < a then emit (f p q) (f p !q) b (sweep f p (!q) (a :: as) bs)
    else emit (f p q) (f (!p) !q) a (sweep f (!p) (!q) as bs)
termination_by as bs => as.length + bs.length

theorem mem_emit {before after : Bool} {e x : Nat} {es : List Nat}
    (h : x ∈ emit before after e es) : x = e ∨ x ∈ es := by
  unfold emit at h
  split at h
  · exact .inr h
  · exact List.mem_cons.1 h

theorem mem_sweep {f : Bool → Bool → Bool} {p q : Bool} {as bs : List Nat} {x : Nat}
    (h : x ∈ sweep f p q as bs) : x ∈ as ∨ x ∈ bs := by
  fun_induction sweep f p q as bs with
  | case1 => simp at h
  | case2 => exact .inr h
  | case3 => simp at h
  | case4 => exact .inl h
  | case5 p q a as b bs _ ih =>
    rcases mem_emit h with rfl | h
    · simp
    · rcases ih h with h | h <;> simp [h]
  | case6 p q a as b bs _ _ ih =>
    rcases mem_emit h with rfl | h
    · simp
    · rcases ih h with h | h
      · exact .inl h
      · simp [h]
  | case7 p q a as b bs _ _ ih =>
    rcases mem_emit h with rfl | h
    · simp
    · rcases ih h with h | h <;> simp [h]

theorem pairwise_emit {before after : Bool} {e : Nat} {es : List Nat}
    (h : es.Pairwise (· < ·)) (he : ∀ x ∈ es, e < x) :
    (emit before after e es).Pairwise (· < ·) := by
  unfold emit
  split
  · exact h
  · exact List.pairwise_cons.2 ⟨he, h⟩

theorem pairwise_sweep {f : Bool → Bool → Bool} {p q : Bool} {as bs : List Nat}
    (ha : as.Pairwise (· < ·)) (hb : bs.Pairwise (· < ·)) :
    (sweep f p q as bs).Pairwise (· < ·) := by
  fun_induction sweep f p q as bs with
  | case1 => simp
  | case2 => exact hb
  | case3 => simp
  | case4 => exact ha
  | case5 p q a as b bs hab ih =>
    have ⟨ha₁, ha₂⟩ := List.pairwise_cons.1 ha
    have hb₁ := (List.pairwise_cons.1 hb).1
    refine pairwise_emit (ih ha₂ hb) fun x hx => ?_
    rcases mem_sweep hx with hx | hx
    · exact ha₁ x hx
    · rcases List.mem_cons.1 hx with rfl | hx
      · exact hab
      · exact Nat.lt_trans hab (hb₁ x hx)
  | case6 p q a as b bs _ hba ih =>
    have ⟨hb₁, hb₂⟩ := List.pairwise_cons.1 hb
    have ha₁ := (List.pairwise_cons.1 ha).1
    refine pairwise_emit (ih ha hb₂) fun x hx => ?_
    rcases mem_sweep hx with hx | hx
    · rcases List.mem_cons.1 hx with rfl | hx
      · exact hba
      · exact Nat.lt_trans hba (ha₁ x hx)
    · exact hb₁ x hx
  | case7 p q a as b bs hab hba ih =>
    have ⟨ha₁, ha₂⟩ := List.pairwise_cons.1 ha
    have ⟨hb₁, hb₂⟩ := List.pairwise_cons.1 hb
    refine pairwise_emit (ih ha₂ hb₂) fun x hx => ?_
    rcases mem_sweep hx with hx | hx
    · exact ha₁ x hx
    · have := hb₁ x hx
      omega

/-! ## Membership after a sweep -/

theorem within_not (inside : Bool) (es : List Nat) (point : Nat) :
    within (!inside) es point = !within inside es point := by
  induction es generalizing inside with
  | nil => rfl
  | cons e es ih =>
    simp only [within]
    split
    · rfl
    · rw [ih]

theorem within_of_lt {inside : Bool} {es : List Nat} {point : Nat} (h : ∀ x ∈ es, point < x) :
    within inside es point = inside := by
  cases es with
  | nil => rfl
  | cons e es => simp [within, h e (by simp)]

theorem within_emit {before after : Bool} {e point : Nat} {es : List Nat}
    (h : ∀ x ∈ es, e < x) : within before (emit before after e es) point =
      if point < e then before else within after es point := by
  unfold emit
  split
  · next hba =>
    subst hba
    split
    · next hlt => exact within_of_lt fun x hx => Nat.lt_trans hlt (h x hx)
    · rfl
  · next hba =>
    have : (!before) = after := by cases before <;> cases after <;> simp_all
    simp [within, this]

/-- A sweep combines the memberships in the two sets it sweeps over. -/
theorem within_sweep {f : Bool → Bool → Bool} {p q : Bool} {as bs : List Nat} {point : Nat}
    (ha : as.Pairwise (· < ·)) (hb : bs.Pairwise (· < ·)) :
    within (f p q) (sweep f p q as bs) point = f (within p as point) (within q bs point) := by
  fun_induction sweep f p q as bs with
  | case1 p q bs hf =>
    cases q <;> cases within _ bs point <;> simp_all [within]
  | case2 p q bs hf =>
    simp only [within]
    by_cases h : f p q = q
    · rw [h]
      cases q <;> cases within _ bs point <;> simp_all
    · rw [show f p q = !q by cases q <;> simp_all, within_not]
      cases q <;> cases within _ bs point <;> simp_all
  | case3 p q as _ hf =>
    cases p <;> cases within _ as point <;> simp_all [within]
  | case4 p q as _ hf =>
    simp only [within]
    by_cases h : f p q = p
    · rw [h]
      cases p <;> cases within _ as point <;> simp_all
    · rw [show f p q = !p by cases p <;> simp_all, within_not]
      cases p <;> cases within _ as point <;> simp_all
  | case5 p q a as b bs hab ih =>
    have ⟨ha₁, ha₂⟩ := List.pairwise_cons.1 ha
    have hb₁ := (List.pairwise_cons.1 hb).1
    have after : ∀ x ∈ b :: bs, a < x := fun x hx => by
      rcases List.mem_cons.1 hx with rfl | hx
      · exact hab
      · exact Nat.lt_trans hab (hb₁ x hx)
    rw [within_emit fun x hx => (mem_sweep hx).elim (ha₁ x) (after x), ih ha₂ hb]
    split
    · next h =>
      rw [within_of_lt fun x hx => Nat.lt_trans h (after x hx)]
      simp [within, h]
    · next h => simp [within, h]
  | case6 p q a as b bs _ hba ih =>
    have ⟨hb₁, hb₂⟩ := List.pairwise_cons.1 hb
    have ha₁ := (List.pairwise_cons.1 ha).1
    have after : ∀ x ∈ a :: as, b < x := fun x hx => by
      rcases List.mem_cons.1 hx with rfl | hx
      · exact hba
      · exact Nat.lt_trans hba (ha₁ x hx)
    rw [within_emit fun x hx => (mem_sweep hx).elim (after x) (hb₁ x), ih ha hb₂]
    split
    · next h =>
      rw [within_of_lt fun x hx => Nat.lt_trans h (after x hx)]
      simp [within, h]
    · next h => simp [within, h]
  | case7 p q a as b bs hab hba ih =>
    have ⟨ha₁, ha₂⟩ := List.pairwise_cons.1 ha
    have ⟨hb₁, hb₂⟩ := List.pairwise_cons.1 hb
    obtain rfl : a = b := by omega
    rw [within_emit fun x hx => (mem_sweep hx).elim (ha₁ x) (hb₁ x), ih ha₂ hb₂]
    split <;> next h => simp [within, h]

/-! ## Operations -/

def containsPoint (s : CharSet) (point : Nat) : Bool := within false s.edges point

def contains (s : CharSet) (c : Char) : Bool := s.containsPoint c.toNat

/-- The set whose members are told by `f` from membership in two sets. -/
def combine (f : Bool → Bool → Bool) (a b : CharSet) : CharSet :=
  ⟨sweep f false false a.edges b.edges, pairwise_sweep a.ascending b.ascending⟩

theorem containsPoint_combine {f : Bool → Bool → Bool} (hf : f false false = false)
    (a b : CharSet) (point : Nat) :
    (combine f a b).containsPoint point = f (a.containsPoint point) (b.containsPoint point) := by
  have := @within_sweep f false false _ _ point a.ascending b.ascending
  rwa [hf] at this

def none : CharSet := ⟨[], .nil⟩

theorem pairwise_pair {first last : Nat} (h : first ≤ last) :
    [first, last + 1].Pairwise (· < ·) :=
  List.pairwise_pair.2 (Nat.lt_succ_of_le h)

/-- The code points from `first` to `last`, both included. -/
def ofPoints (first last : Nat) : CharSet :=
  if h : first ≤ last then ⟨[first, last + 1], pairwise_pair h⟩ else none

def ofRange (first last : Char) : CharSet := ofPoints first.toNat last.toNat

def ofChar (c : Char) : CharSet := ofRange c c

def all : CharSet := ofPoints 0 0x10FFFF

def ascii : CharSet := ofPoints 0 0x7F

def union (a b : CharSet) : CharSet := combine (· || ·) a b

def inter (a b : CharSet) : CharSet := combine (· && ·) a b

def unions (sets : List CharSet) : CharSet := sets.foldr union none

/-- The code points set aside for pairs of 16-bit units; no character has one. -/
def surrogates : CharSet := ofPoints 0xD800 0xDFFF

/-- The members of `a` that are not in `b`. Where characters are left only on one side of the
surrogates, no surrogate is left beside them. -/
def diff (a b : CharSet) : CharSet :=
  let rest := combine (fun p q => p && !q) a b
  if rest.edges.contains 0xD800 || rest.edges.contains 0xE000 then
    combine (fun p q => p && !q) rest surrogates
  else rest

/-- The members of exactly one of two sets. -/
def symmDiff (a b : CharSet) : CharSet := diff (union a b) (inter a b)

/-- The characters before, between and after the ranges of a set. The gap between two ranges reaches
from the character after the first to the character before the second. Where that takes it from
U+E000 back to U+D7FF, because no character lies between, both of them belong to it. -/
def compl (s : CharSet) : CharSet :=
  if s.edges.contains 0xD800 && s.edges.contains 0xE000 then
    union (diff all s) (ofPoints 0xD7FF 0xE000)
  else diff all s

/-! ## Laws of the operations -/

@[simp] theorem contains_union (a b : CharSet) (c : Char) :
    (union a b).contains c = (a.contains c || b.contains c) :=
  containsPoint_combine rfl a b c.toNat

@[simp] theorem contains_inter (a b : CharSet) (c : Char) :
    (inter a b).contains c = (a.contains c && b.contains c) :=
  containsPoint_combine rfl a b c.toNat

theorem containsPoint_ofPoints (first last point : Nat) :
    (ofPoints first last).containsPoint point = (first ≤ point && point ≤ last : Bool) := by
  unfold ofPoints containsPoint
  split <;> simp only [within, none] <;> grind

theorem contains_all (c : Char) : all.contains c = true := by
  have := c.valid
  simp only [contains, all, containsPoint_ofPoints]
  grind [Char.toNat]

theorem contains_surrogates (c : Char) : surrogates.contains c = false := by
  have := c.valid
  simp only [contains, surrogates, containsPoint_ofPoints]
  grind [Char.toNat]

@[simp] theorem contains_diff (a b : CharSet) (c : Char) :
    (diff a b).contains c = (a.contains c && !b.contains c) := by
  have hs := contains_surrogates c
  simp only [contains] at hs
  simp only [diff, contains]
  split <;> simp [containsPoint_combine, hs]

/-- A character is in a complement when it is not in the set, unless two ranges of the set meet at
the surrogates. -/
theorem contains_compl {s : CharSet} (h : ¬ (0xD800 ∈ s.edges ∧ 0xE000 ∈ s.edges)) (c : Char) :
    (compl s).contains c = !s.contains c := by
  unfold compl
  split
  · next hs => simp_all
  · simp [contains_all]

/-! ## Tables -/

def ofTable (ranges : CodeTable) : CharSet :=
  unions (ranges.map fun r => ofPoints r.first r.last)

def ofText (text : String) : CharSet := ofTable (.ofText text)

theorem containsPoint_unions (sets : List CharSet) (point : Nat) :
    (unions sets).containsPoint point = sets.any (·.containsPoint point) := by
  induction sets with
  | nil => rfl
  | cons s sets ih =>
    rw [List.any_cons, ← ih]
    exact containsPoint_combine rfl s (unions sets) point

theorem containsPoint_ofTable (table : CodeTable) (point : Nat) :
    (ofTable table).containsPoint point =
      table.any fun r => r.first ≤ point && point ≤ r.last := by
  simp only [ofTable, containsPoint_unions, List.any_map, Function.comp_def, containsPoint_ofPoints]

/-- The ranges of code points that a set is made of, with a gap between each two of them. -/
def ranges (s : CharSet) : CodeTable := rangesFrom s.edges
where
  rangesFrom : List Nat → CodeTable
    | first :: stop :: rest => ⟨first, stop - 1⟩ :: rangesFrom rest
    | _ => []

/-! ## Case -/

/-- The entries at code points inside, both in ascending order. -/
def select {α : Type} (inside : Bool) : List Nat → List (Nat × α) → List α
  | _, [] => []
  | [], (_, x) :: entries => if inside then x :: select inside [] entries else []
  | e :: es, (point, x) :: entries =>
    if e ≤ point then select (!inside) es ((point, x) :: entries)
    else if inside then x :: select inside (e :: es) entries
    else select inside (e :: es) entries
termination_by es entries => es.length + entries.length

/-- The set with every character that differs from a member in case only. -/
def foldClosure (s : CharSet) : CharSet :=
  let points := (select false s.edges CaseOrbit.all).flatten.mergeSort
  union s (ofTable (points.map fun point => ⟨point, point⟩))

/-- The set with every ASCII letter whose other case is a member. -/
def asciiFoldClosure (s : CharSet) : CharSet :=
  let letters := (List.range 128).map Char.ofNat |>.filter fun c => c.isAlpha && s.contains c
  let otherCase (c : Char) : Char := if c.isLower then c.toUpper else c.toLower
  unions (s :: letters.map fun c => ofChar (otherCase c))

end CharSet

end InstanceFilter.Unicode
