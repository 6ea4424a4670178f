/-
Places of values. Every value of an ordered kind has a place among the others of its kind, a list of
integers: an integer and a date-time stand at their number, a text at the code points of its
characters, and a double at the step of its sign and size, then at its exponent and its mantissa.
Both the order of two values and their equality are those of their places, so equality, which the
program decides for all kinds of values, and order, which it decides for these kinds only, cannot
disagree.
-/
import InstanceFilter.Proofs.Comparing
import InstanceFilter.Value.Order

namespace InstanceFilter

open Float.Model

/-! ## Doubles -/

/-- The place of a double that is a number; below zero larger exponents and mantissas come first. -/
def placeUnpacked : UnpackedFloat → List Int
  | .infinity .negative => [-2]
  | .finite .negative mantissa exponent _ => [-1, -exponent, -mantissa]
  | .zero _ | .notANumber => [0]
  | .finite .positive mantissa exponent _ => [1, exponent, mantissa]
  | .infinity .positive => [2]

/-- Two doubles that are numbers compare as their places. -/
theorem compare_unpacked {u v : UnpackedFloat} (hu : u.isNaN = false) (hv : v.isNaN = false) :
    u.compare v = some (compare (placeUnpacked u) (placeUnpacked v)) := by
  cases u with
  | notANumber => cases hu
  | infinity s => cases v with
    | notANumber => cases hv
    | infinity t => cases s <;> cases t <;> rfl
    | zero t => cases s <;> rfl
    | finite t n f hn => cases s <;> cases t <;> rfl
  | zero s => cases v with
    | notANumber => cases hv
    | infinity t => cases t <;> rfl
    | zero t => rfl
    | finite t n f hn => cases t <;> rfl
  | finite s m e hm => cases v with
    | notANumber => cases hv
    | infinity t => cases s <;> cases t <;> rfl
    | zero t => cases s <;> rfl
    | finite t n f hn =>
      -- two of one sign go by exponent and mantissa, turned round below zero
      cases s <;> cases t
      · show some ((compare e f).then (compare m n)).swap =
          some (compare [(-1 : Int), -e, -(m : Int)] [-1, -f, -(n : Int)])
        simp [compare_neg_neg, compare_natCast, Ordering.swap_then]
      · rfl
      · rfl
      · show some ((compare e f).then (compare m n)) =
          some (compare [(1 : Int), e, m] [1, f, n])
        simp [compare_natCast]

theorem compare_unpacked_of_isNaN {u v : UnpackedFloat} (h : u.isNaN = true ∨ v.isNaN = true) :
    u.compare v = none := by
  cases u with
  | notANumber => rfl
  | infinity s => cases v with
    | notANumber => cases s <;> rfl
    | _ => rcases h with h | h <;> cases h
  | zero s => cases v with
    | notANumber => rfl
    | _ => rcases h with h | h <;> cases h
  | finite s m e hm => cases v with
    | notANumber => cases s <;> rfl
    | _ => rcases h with h | h <;> cases h

theorem double_lt_iff {x y : Float} :
    x < y ↔ x.toModel.unpack.compare y.toModel.unpack = some .lt := by
  show decide ((x.toModel.unpack.compare y.toModel.unpack == some .lt) = true) = true ↔ _
  rw [decide_eq_true_iff, beq_iff_eq]

theorem double_beq_iff {x y : Float} :
    (x == y) = true ↔ x.toModel.unpack.compare y.toModel.unpack = some .eq := by
  show (x.toModel.unpack.compare y.toModel.unpack == some .eq) = true ↔ _
  rw [beq_iff_eq]

/-- Of two doubles that are not both numbers neither comes first, and they are not equal. -/
theorem compareDouble?_of_isNaN {x y : Float} (h : x.isNaN = true ∨ y.isNaN = true) :
    compareDouble? x y = none ∧ (x == y) = false := by
  have hnone : x.toModel.unpack.compare y.toModel.unpack = none := compare_unpacked_of_isNaN h
  have hnone' : y.toModel.unpack.compare x.toModel.unpack = none :=
    compare_unpacked_of_isNaN h.symm
  have hne : (x == y) = false := by
    rw [Bool.eq_false_iff, Ne, double_beq_iff, hnone]
    exact nofun
  refine ⟨?_, hne⟩
  have hlt : ¬ x < y := by simp [double_lt_iff, hnone]
  have hgt : ¬ y < x := by simp [double_lt_iff, hnone']
  simp [compareDouble?, hlt, hgt, hne]

section Numbers

variable {x y : Float} (hx : x.isNaN = false) (hy : y.isNaN = false)
include hx hy

theorem double_beq_eq :
    (x == y) = (compare (placeUnpacked x.toModel.unpack) (placeUnpacked y.toModel.unpack)).isEq := by
  rw [Bool.eq_iff_iff, double_beq_iff, compare_unpacked hx hy, Option.some_inj,
    Ordering.isEq_iff_eq_eq]

theorem compareDouble?_eq : compareDouble? x y =
    some (compare (placeUnpacked x.toModel.unpack) (placeUnpacked y.toModel.unpack)) := by
  have hgt : y < x ↔
      compare (placeUnpacked x.toModel.unpack) (placeUnpacked y.toModel.unpack) = .gt := by
    rw [double_lt_iff, compare_unpacked hy hx, Option.some_inj, Std.OrientedCmp.gt_iff_lt]
  have hlt : x < y ↔
      compare (placeUnpacked x.toModel.unpack) (placeUnpacked y.toModel.unpack) = .lt := by
    rw [double_lt_iff, compare_unpacked hx hy, Option.some_inj]
  simp only [compareDouble?, hlt, hgt, double_beq_eq hx hy]
  cases compare (placeUnpacked x.toModel.unpack) (placeUnpacked y.toModel.unpack) <;> rfl

end Numbers

/-! ## Texts -/

/-- The place of a text. -/
def codePoints (text : String) : List Int := text.toList.map fun c => (c.toNat : Int)

theorem compare_toNat (c d : Char) : compare (c.toNat : Int) d.toNat = compare c d := by
  have hmono : StrictMono fun c : Char => (c.toNat : Int) := fun _ _ h => Int.ofNat_lt.2 h
  rw [← cmp_eq_compare, hmono.cmp_map_eq c d, cmp_eq_compare]

theorem compareText_eq (s t : String) : compareText s t = compare (codePoints s) (codePoints t) := by
  have hlists (cs ds : List Char) : compare cs ds =
      compare (cs.map fun c => (c.toNat : Int)) (ds.map fun c => (c.toNat : Int)) := by
    induction cs generalizing ds with
    | nil => cases ds <;> rfl
    | cons c cs ih => cases ds with
      | nil => rfl
      | cons d ds =>
        rw [List.map_cons, List.map_cons, List.compare_cons_cons, List.compare_cons_cons,
          compare_toNat, ih]
  exact hlists s.toList t.toList

theorem codePoints_inj {s t : String} : codePoints s = codePoints t ↔ s = t := by
  unfold codePoints
  rw [List.map_inj_right fun c d h => Char.toNat_inj.1 (Int.ofNat_inj.1 h), String.toList_inj]

/-! ## Values -/

namespace Value

def place : Value → List Int
  | .integer n => [n.toInt]
  | .double x => placeUnpacked x.toModel.unpack
  | .string text => codePoints text
  | .dateTime d => [d.normalized]
  | _ => []

/-- Two scalars that have an order: numbers, texts, or date-times of one form. -/
inductive Comparable : Value → Value → Prop
  | integers (m n : Int64) : Comparable (.integer m) (.integer n)
  | doubles {x y : Float} (hx : x.isNaN = false) (hy : y.isNaN = false) :
    Comparable (.double x) (.double y)
  | texts (s t : String) : Comparable (.string s) (.string t)
  | dateTimes {d e : DateTime} (h : d.isInterval = e.isInterval) :
    Comparable (.dateTime d) (.dateTime e)

variable {a b c : Value}

theorem Comparable.symm (h : a.Comparable b) : b.Comparable a := by
  cases h with
  | integers m n => exact .integers n m
  | doubles hx hy => exact .doubles hy hx
  | texts s t => exact .texts t s
  | dateTimes h => exact .dateTimes h.symm

theorem Comparable.trans (hab : a.Comparable b) (hbc : b.Comparable c) : a.Comparable c := by
  cases hab with
  | integers m n => cases hbc with | integers _ k => exact .integers m k
  | doubles hx hy => cases hbc with | doubles _ hz => exact .doubles hx hz
  | texts s t => cases hbc with | texts _ u => exact .texts s u
  | dateTimes h => cases hbc with | dateTimes h' => exact .dateTimes (h.trans h')

/-- The order of two values is the order of their places. -/
theorem compare?_of_comparable (h : a.Comparable b) :
    a.compare? b = some (compare a.place b.place) := by
  cases h with
  | integers m n => simp [compare?, place]
  | doubles hx hy => exact compareDouble?_eq hx hy
  | texts s t => exact congrArg some (compareText_eq s t)
  | dateTimes h => simp [compare?, place, DateTime.compare?, h]

/-- Two values are the same when they stand at one place. -/
theorem same_of_comparable (h : a.Comparable b) : a.same b = (compare a.place b.place).isEq := by
  cases h with
  | integers m n =>
    rw [Bool.eq_iff_iff, Ordering.isEq_iff_eq_eq, Std.compare_eq_iff_eq]
    simp [same, place, Int64.toInt_inj]
  | doubles hx hy => exact double_beq_eq hx hy
  | texts s t =>
    rw [Bool.eq_iff_iff, Ordering.isEq_iff_eq_eq, Std.compare_eq_iff_eq]
    simp [same, place, codePoints_inj]
  | @dateTimes d e h =>
    have hcompare : d.compare? e = some (compare (place (.dateTime d)) (place (.dateTime e))) :=
      compare?_of_comparable (.dateTimes h)
    rw [same, DateTime.same, hcompare, Bool.eq_iff_iff, Ordering.isEq_iff_eq_eq, beq_iff_eq,
      Option.some_inj]

end Value

end InstanceFilter
