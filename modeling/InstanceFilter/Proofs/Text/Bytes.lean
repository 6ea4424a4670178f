/-
Texts as bytes. A character is written in one to four bytes, and of two characters the lower has the
lower bytes: the first byte tells how many there are, and the rest are digits of base 64. So texts
are in one order whether they are compared character by character or byte by byte, and folding a
name is putting the bytes of its ASCII letters in lower case.
-/
import InstanceFilter.Text.CaseFold
import InstanceFilter.Proofs.Comparing

namespace InstanceFilter.Text

/-- The bytes of a text in UTF-8. -/
def bytes (text : String) : List UInt8 := text.toByteArray.data.toList

theorem bytes_eq (text : String) : bytes text = text.toList.flatMap String.utf8EncodeChar := by
  have hencoded : text.toByteArray = text.toList.utf8Encode := by
    rw [← String.toByteArray_ofList, String.ofList_toList]
  rw [bytes, hencoded, List.utf8Encode, List.data_toByteArray]

/-! ## The order of bytes -/

theorem compare_byte (a b : UInt8) : compare a b = compare a.toNat b.toNat := by
  show compareOfLessAndEq a b = compareOfLessAndEq a.toNat b.toNat
  simp only [compareOfLessAndEq, UInt8.lt_iff_toNat_lt, UInt8.toNat_inj]

theorem compare_encoded_of_lt {c d : Char} (h : c < d) (rest rest' : List UInt8) :
    compare (String.utf8EncodeChar c ++ rest) (String.utf8EncodeChar d ++ rest') = .lt := by
  have hlt : c.val.toNat < d.val.toNat := h
  have hbound : d.val.toNat < 0x110000 := by
    rcases d.valid with h | h
    · exact Nat.lt_trans h (by decide)
    · exact h.2
  unfold String.utf8EncodeChar
  generalize c.val.toNat = m at hlt
  generalize d.val.toNat = n at hlt hbound
  -- digits of base 64, each taken off what is left by the one before it
  have htwo (k : Nat) : k / 4096 = k / 64 / 64 := (Nat.div_div_eq_div_mul k 64 64).symm
  have hthree (k : Nat) : k / 262144 = k / 64 / 64 / 64 := by
    rw [← htwo, Nat.div_div_eq_div_mul]
  simp only
  split_ifs
  all_goals
    simp only [List.cons_append, List.nil_append, List.compare_cons_cons, compare_byte,
      UInt8.toNat_ofNat', Ordering.then_eq_lt, Nat.compare_eq_lt, Nat.compare_eq_eq, htwo, hthree]
    omega

theorem compare_encoded (cs ds : List Char) :
    compare (cs.flatMap String.utf8EncodeChar) (ds.flatMap String.utf8EncodeChar) =
      compare cs ds := by
  have hne (c : Char) (cs : List Char) : ∃ b bs, (c :: cs).flatMap String.utf8EncodeChar = b :: bs := by
    rw [List.flatMap_cons]
    unfold String.utf8EncodeChar
    simp only
    split_ifs <;> exact ⟨_, _, rfl⟩
  induction cs generalizing ds with
  | nil => cases ds with
    | nil => rfl
    | cons d ds =>
      obtain ⟨b, bs, h⟩ := hne d ds
      rw [h]
      rfl
  | cons c cs ih => cases ds with
    | nil =>
      obtain ⟨b, bs, h⟩ := hne c cs
      rw [h]
      rfl
    | cons d ds =>
      rw [List.flatMap_cons, List.flatMap_cons, List.compare_cons_cons]
      rcases lt_trichotomy c d with h | h | h
      · rw [compare_encoded_of_lt h, compare_lt_iff_lt.2 h]
        rfl
      · have hbytes (bytes : List UInt8) : compare bytes bytes = .eq := Std.ReflCmp.compare_self
        rw [h, compare_append rfl, hbytes, compare_eq_iff_eq.2 rfl, ih]
      · rw [Std.OrientedCmp.gt_iff_lt.2 (compare_encoded_of_lt h _ _), compare_gt_iff_gt.2 h]
        rfl

/-- A byte with an ASCII letter put in lower case. -/
def foldByte (b : UInt8) : UInt8 := if 65 ≤ b ∧ b ≤ 90 then b + 32 else b

/-- A byte of a character is the character itself, or it is above ASCII. -/
theorem toNat_of_mem_encoded {c : Char} {b : UInt8} (h : b ∈ String.utf8EncodeChar c) :
    c.toNat < 128 ∧ b.toNat = c.toNat ∨ 128 ≤ b.toNat := by
  have hcode : c.toNat = c.val.toNat := rfl
  rw [hcode]
  unfold String.utf8EncodeChar at h
  generalize c.val.toNat = n at h
  simp only at h
  split_ifs at h
  all_goals
    simp only [List.mem_cons, List.not_mem_nil, or_false, ← UInt8.toNat_inj,
      UInt8.toNat_ofNat'] at h
    omega

theorem encoded_of_ascii {c : Char} (h : c.toNat < 128) :
    String.utf8EncodeChar c = [UInt8.ofNat c.toNat] :=
  if_pos (Nat.le_of_lt_succ h)

theorem foldByte_ofNat_upper {n : Nat} (hfirst : 65 ≤ n) (hlast : n ≤ 90) :
    foldByte (UInt8.ofNat n) = UInt8.ofNat (n + 32) := by
  have hcode : (UInt8.ofNat n).toNat = n := by
    rw [UInt8.toNat_ofNat']
    omega
  have hletter : 65 ≤ UInt8.ofNat n ∧ UInt8.ofNat n ≤ 90 := by
    rw [UInt8.le_iff_toNat_le, UInt8.le_iff_toNat_le, hcode]
    exact ⟨hfirst, hlast⟩
  exact (if_pos hletter).trans (UInt8.ofNat_add n 32).symm

theorem map_foldByte_encoded (c : Char) :
    (String.utf8EncodeChar c).map foldByte = String.utf8EncodeChar c.toLower := by
  by_cases hupper : c.val ≥ 'A'.val ∧ c.val ≤ 'Z'.val
  · have hlower : c.toLower.val = c.val + ('a'.val - 'A'.val) := congrArg Char.val (dif_pos hupper)
    have hfirst : 65 ≤ c.toNat := UInt32.le_iff_toNat_le.1 hupper.1
    have hlast : c.toNat ≤ 90 := UInt32.le_iff_toNat_le.1 hupper.2
    have hcode : c.toLower.toNat = c.toNat + 32 := by
      have hshift : ('a'.val - 'A'.val).toNat = 32 := rfl
      have hval : c.val.toNat = c.toNat := rfl
      rw [Char.toNat, hlower, UInt32.toNat_add, hshift, hval]
      omega
    rw [encoded_of_ascii (by omega), encoded_of_ascii (by omega), hcode, List.map_singleton,
      foldByte_ofNat_upper hfirst hlast]
  · have hlower : c.toLower = c := dif_neg hupper
    have hother : ∀ b ∈ String.utf8EncodeChar c, foldByte b = id b := by
      intro b hb
      refine if_neg fun hletter => hupper ?_
      have hfirst : 65 ≤ b.toNat := UInt8.le_iff_toNat_le.1 hletter.1
      have hlast : b.toNat ≤ 90 := UInt8.le_iff_toNat_le.1 hletter.2
      rcases toNat_of_mem_encoded hb with ⟨-, hcode⟩ | habove
      · rw [hcode] at hfirst hlast
        exact ⟨UInt32.le_iff_toNat_le.2 hfirst, UInt32.le_iff_toNat_le.2 hlast⟩
      · omega
    rw [hlower, List.map_congr_left hother, List.map_id]

theorem map_foldByte_bytes (name : String) :
    (bytes name).map foldByte = (fold name).flatMap String.utf8EncodeChar := by
  rw [bytes_eq, fold, List.map_flatMap, List.flatMap_map]
  simp only [map_foldByte_encoded]

/-- Names are in the order of their bytes with the ASCII letters in lower case. -/
theorem compare_fold (a b : String) :
    compare ((bytes a).map foldByte) ((bytes b).map foldByte) = compare (fold a) (fold b) := by
  rw [map_foldByte_bytes, map_foldByte_bytes, compare_encoded]

end InstanceFilter.Text
