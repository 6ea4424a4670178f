/-
Comparing part by part. What is made of a leading part and a rest compares by the leading parts
first, and by the rests where these agree: numbers by what stands above a digit of a base, lists by
what stands before a place in both.
-/
import Mathlib.Algebra.Order.Ring.Int
import Mathlib.Data.Char
import Mathlib.Order.Compare

namespace InstanceFilter

/-! ## Numbers -/

theorem compare_neg_neg (a b : Int) : compare (-a) (-b) = (compare a b).swap := by
  have hanti : StrictAnti fun n : Int => -n := fun _ _ h => Int.neg_lt_neg h
  rw [← cmp_eq_compare, hanti.cmp_map_eq a b, cmp_eq_compare]
  exact Std.OrientedCmp.eq_swap

theorem compare_natCast (m n : Nat) : compare (m : Int) n = compare m n := by
  have hmono : StrictMono fun n : Nat => (n : Int) := fun _ _ h => Int.ofNat_lt.2 h
  rw [← cmp_eq_compare, hmono.cmp_map_eq m n, cmp_eq_compare]

section Leading

variable {α β : Type} [LinearOrder α] [LinearOrder β]

end Leading

theorem compare_append {α : Type} [Ord α] {as bs : List α} (h : as.length = bs.length)
    (cs ds : List α) : compare (as ++ cs) (bs ++ ds) = (compare as bs).then (compare cs ds) := by
  induction as generalizing bs with
  | nil =>
    rw [List.eq_nil_of_length_eq_zero h.symm]
    rfl
  | cons a as ih => cases bs with
    | nil => cases h
    | cons b bs =>
      rw [List.cons_append, List.cons_append, List.compare_cons_cons, List.compare_cons_cons,
        ih (Nat.succ.inj h), Ordering.then_assoc]

end InstanceFilter
