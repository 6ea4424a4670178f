/-
Names up to the case of their ASCII letters. Folding a name changes letters into letters and nothing
else, so two spellings of a name have the same separators in the same places, and one of them is an
identifier exactly when the other is.
-/
import InstanceFilter.Proofs.Text.Identifier
import InstanceFilter.Text.CaseFold

namespace InstanceFilter.Text

/-! ## Characters -/

/-- A character that folding changes is a letter and becomes a letter. -/
theorem toLower_eq_or_isAlpha (c : Char) :
    c.toLower = c ∨ c.isAlpha = true ∧ c.toLower.isAlpha = true := by
  by_cases hupper : c.val ≥ 'A'.val ∧ c.val ≤ 'Z'.val
  · have hlower : c.toLower.val = c.val + ('a'.val - 'A'.val) := congrArg Char.val (dif_pos hupper)
    have hfirst : 'A'.val.toNat ≤ c.val.toNat := UInt32.le_iff_toNat_le.1 hupper.1
    have hlast : c.val.toNat ≤ 'Z'.val.toNat := UInt32.le_iff_toNat_le.1 hupper.2
    refine .inr ⟨?_, ?_⟩
    · have : c.isUpper = true := decide_eq_true hupper
      show (c.isUpper || c.isLower) = true
      rw [this, Bool.true_or]
    · have hA : 'A'.val.toNat = 65 := rfl
      have hZ : 'Z'.val.toNat = 90 := rfl
      have ha : 'a'.val.toNat = 97 := rfl
      have hz : 'z'.val.toNat = 122 := rfl
      have hshift : ('a'.val - 'A'.val).toNat = 32 := rfl
      have : c.toLower.isLower = true := by
        show (decide (c.toLower.val ≥ 'a'.val) && decide (c.toLower.val ≤ 'z'.val)) = true
        rw [hlower, Bool.and_eq_true, decide_eq_true_eq, decide_eq_true_eq, ge_iff_le,
          UInt32.le_iff_toNat_le, UInt32.le_iff_toNat_le, UInt32.toNat_add]
        omega
      show (c.toLower.isUpper || c.toLower.isLower) = true
      rw [this, Bool.or_true]
  · exact .inl (dif_neg hupper)

theorem isIdentifierChar_of_isAlpha {c : Char} (h : c.isAlpha = true) :
    isIdentifierChar c = true := by
  simp [isIdentifierChar, isAlphanumeric, isAlphabetic, h]

theorem isIdentifierChar_toLower (c : Char) : isIdentifierChar c.toLower = isIdentifierChar c := by
  rcases toLower_eq_or_isAlpha c with h | ⟨hc, hlower⟩
  · rw [h]
  · rw [isIdentifierChar_of_isAlpha hc, isIdentifierChar_of_isAlpha hlower]

theorem toLower_eq_iff {c d : Char} (hd : d.isAlpha = false) : c.toLower = d ↔ c = d := by
  rcases toLower_eq_or_isAlpha c with h | ⟨hc, hlower⟩
  · rw [h]
  · constructor
    · rintro rfl
      rw [hlower] at hd
      cases hd
    · rintro rfl
      rw [hc] at hd
      cases hd

/-! ## Names -/

theorem isIdentifier_fold (name : String) :
    isIdentifier (fold name) = isIdentifier name.toList := by
  unfold isIdentifier fold
  rw [List.isEmpty_map, List.all_map]
  congr 2
  funext c
  exact isIdentifierChar_toLower c

theorem mem_fold_iff {name : String} {c : Char} (hc : c.isAlpha = false) :
    c ∈ fold name ↔ c ∈ name.toList := by
  simp [fold, toLower_eq_iff hc]

theorem head?_fold_eq_some_iff {name : String} {c : Char} (hc : c.isAlpha = false) :
    (fold name).head? = some c ↔ name.toList.head? = some c := by
  simp [fold, toLower_eq_iff hc]

theorem fold_eq_nil_iff {name : String} : fold name = [] ↔ name.toList = [] := List.map_eq_nil_iff

end InstanceFilter.Text
