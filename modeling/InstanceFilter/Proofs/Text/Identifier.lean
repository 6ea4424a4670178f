/-
Blanks and identifiers: no character of an identifier is a blank, so trimming an identifier changes
nothing, nor does trimming any text that neither starts nor ends with a blank.

The tables of letters and numbers are searched for blanks range by range.
-/
import InstanceFilter.Text.Blank
import InstanceFilter.Text.Identifier

namespace InstanceFilter.Text

open Unicode

/-! ## Tables without blanks -/

def blanks : CodeTable :=
  [⟨0x9, 0xD⟩, ⟨0x20, 0x20⟩, ⟨0x85, 0x85⟩, ⟨0xA0, 0xA0⟩, ⟨0x1680, 0x1680⟩, ⟨0x2000, 0x200A⟩,
    ⟨0x2028, 0x2029⟩, ⟨0x202F, 0x202F⟩, ⟨0x205F, 0x205F⟩, ⟨0x3000, 0x3000⟩]

theorem isBlank_iff {c : Char} :
    isBlank c = true ↔ ∃ q ∈ blanks, q.first ≤ c.toNat ∧ c.toNat ≤ q.last := by
  have h : Property.whiteSpace = .ofTable blanks := congrArg CharSet.ofTable (by decide +kernel)
  rw [isBlank, CharSet.contains, h, CharSet.containsPoint_ofTable, List.any_eq_true]
  simp only [Bool.and_eq_true, decide_eq_true_eq]

theorem isBlank_eq_false {c : Char} (h : ∀ q ∈ blanks, c.toNat < q.first ∨ q.last < c.toNat) :
    isBlank c = false := by
  refine Bool.eq_false_iff.2 fun hb => ?_
  obtain ⟨q, hq, hlo, hhi⟩ := isBlank_iff.1 hb
  have := h q hq
  omega

/-- No blank is in the set. -/
def Blankless (s : CharSet) : Prop := ∀ c, isBlank c = true → s.contains c = false

/-- Whether a table has no range that meets the blanks. -/
def blanklessTable (table : CodeTable) : Bool :=
  table.all fun r => blanks.all fun q => r.last.blt q.first || q.last.blt r.first

theorem blankless_ofTable {table : CodeTable} (h : blanklessTable table = true) :
    Blankless (.ofTable table) := by
  intro c hc
  obtain ⟨q, hq, hlo, hhi⟩ := isBlank_iff.1 hc
  rw [CharSet.contains, CharSet.containsPoint_ofTable, List.any_eq_false]
  intro r hr
  have hapart := List.all_eq_true.1 (List.all_eq_true.1 h r hr) q hq
  simp only [Bool.or_eq_true, Nat.blt_eq] at hapart
  simp only [Bool.and_eq_true, decide_eq_true_eq]
  omega

theorem blankless_nil : Blankless (.unions []) := fun _ _ => rfl

theorem blankless_cons {s : CharSet} {sets : List CharSet} (hs : Blankless s)
    (h : Blankless (.unions sets)) : Blankless (.unions (s :: sets)) := fun c hc =>
  (CharSet.contains_union s (.unions sets) c).trans (by rw [hs c hc, h c hc]; rfl)

/-! ### Letters and numbers -/

theorem blankless_alphabetic : Blankless Property.alphabetic := by
  have cased : Blankless Category.casedLetter := by
    refine blankless_cons (blankless_ofTable ?_) <| blankless_cons (blankless_ofTable ?_) <|
      blankless_cons (blankless_ofTable ?_) blankless_nil
    all_goals decide +kernel
  have letter : Blankless Category.letter := by
    refine blankless_cons cased <| blankless_cons (blankless_ofTable ?_) <|
      blankless_cons (blankless_ofTable ?_) blankless_nil
    all_goals decide +kernel
  refine blankless_cons letter <| blankless_cons (blankless_ofTable ?_) <|
    blankless_cons (blankless_ofTable ?_) blankless_nil
  all_goals decide +kernel

theorem blankless_number : Blankless Category.number := by
  refine blankless_cons (blankless_ofTable ?_) <| blankless_cons (blankless_ofTable ?_) <|
    blankless_cons (blankless_ofTable ?_) blankless_nil
  all_goals decide +kernel

theorem blankless_recent : Blankless Recent.alphabetic ∧ Blankless Recent.number := by
  refine ⟨blankless_ofTable ?_, blankless_ofTable ?_⟩
  all_goals decide +kernel

/-! ## Identifiers -/

theorem toNat_of_isAlpha {c : Char} (h : c.isAlpha = true) :
    'A'.toNat ≤ c.toNat ∧ c.toNat ≤ 'z'.toNat := by
  rcases Bool.or_eq_true_iff.1 h with hupper | hlower
  · obtain ⟨hlo, hhi⟩ : c.val ≥ 'A'.val ∧ c.val ≤ 'Z'.val := of_decide_eq_true hupper
    exact ⟨UInt32.le_iff_toNat_le.1 hlo,
      Nat.le_trans (UInt32.le_iff_toNat_le.1 hhi) (by decide)⟩
  · obtain ⟨hlo, hhi⟩ := Bool.and_eq_true_iff.1 hlower
    exact ⟨Nat.le_trans (by decide) (UInt32.le_iff_toNat_le.1 (of_decide_eq_true hlo)),
      UInt32.le_iff_toNat_le.1 (of_decide_eq_true hhi)⟩

/-- A character of ASCII that identifiers take lies between the first digit and the last letter. -/
theorem ascii_of_apart {c : Char} (h : c.toNat < '0'.toNat ∨ 'z'.toNat < c.toNat) :
    c.isDigit = false ∧ c.isAlpha = false ∧ c ≠ '_' := by
  have hzero : '0'.toNat ≤ 'A'.toNat := by decide
  have hnine : '9'.toNat ≤ 'z'.toNat := by decide
  refine ⟨Bool.eq_false_iff.2 fun hd => ?_, Bool.eq_false_iff.2 fun ha => ?_, ?_⟩
  · have := Char.isDigit_iff_toNat.1 hd
    omega
  · have := toNat_of_isAlpha ha
    omega
  · rintro rfl
    exact absurd h (by decide)

theorem isBlank_of_isIdentifierChar {c : Char} (h : isIdentifierChar c = true) :
    isBlank c = false := by
  refine Bool.eq_false_iff.2 fun hb => ?_
  have hapart : c.toNat < '0'.toNat ∨ 'z'.toNat < c.toNat := by
    obtain ⟨q, hq, hlo, hhi⟩ := isBlank_iff.1 hb
    have := (by decide : ∀ q ∈ blanks, q.last < '0'.toNat ∨ 'z'.toNat < q.first) q hq
    omega
  obtain ⟨hdigit, halpha, hline⟩ := ascii_of_apart hapart
  have ha := blankless_alphabetic c hb
  have hra := blankless_recent.1 c hb
  have hn := blankless_number c hb
  have hrn := blankless_recent.2 c hb
  simp [isIdentifierChar, isAlphanumeric, isAlphabetic, hdigit, halpha, hline, ha, hra, hn,
    hrn] at h

theorem isIdentifier_iff {text : List Char} :
    isIdentifier text = true ↔ text ≠ [] ∧ ∀ c ∈ text, isIdentifierChar c = true := by
  simp [isIdentifier]

theorem not_mem_of_isIdentifier {text : List Char} {c : Char} (h : isIdentifier text = true)
    (hc : isIdentifierChar c = false) : c ∉ text := fun hmem => by
  rw [(isIdentifier_iff.1 h).2 c hmem] at hc
  cases hc

/-! ## Trimming -/

theorem trimLeft_of_head {text : List Char} (h : ∀ c ∈ text.head?, isBlank c = false) :
    trimLeft text = text := by
  cases text with
  | nil => rfl
  | cons c rest => exact List.dropWhile_cons_of_neg (by rw [h c rfl]; exact Bool.false_ne_true)

theorem trimRight_of_last {text : List Char} (h : ∀ c ∈ text.getLast?, isBlank c = false) :
    trimRight text = text := by
  have hrev : trimLeft text.reverse = text.reverse :=
    trimLeft_of_head (by rwa [List.head?_reverse])
  rw [trimRight, ← trimLeft, hrev, List.reverse_reverse]

theorem trim_of_ends {text : List Char} (hhead : ∀ c ∈ text.head?, isBlank c = false)
    (hlast : ∀ c ∈ text.getLast?, isBlank c = false) : trim text = text := by
  rw [trim, trimLeft_of_head hhead, trimRight_of_last hlast]

/-- Nothing but blanks is trimmed off. -/
theorem isBlank_or_mem_trim {text : List Char} {c : Char} (h : c ∈ text) :
    isBlank c = true ∨ c ∈ trim text := by
  have hleft (text : List Char) (h : c ∈ text) : isBlank c = true ∨ c ∈ trimLeft text := by
    rw [← List.takeWhile_append_dropWhile (p := isBlank) (l := text)] at h
    rcases List.mem_append.1 h with h | h
    · exact .inl (List.all_eq_true.1 (List.all_takeWhile ..) c h)
    · exact .inr h
  rcases hleft text h with hblank | h
  · exact .inl hblank
  · have hright := hleft (trimLeft text).reverse (List.mem_reverse.2 h)
    exact hright.imp_right fun h => List.mem_reverse.2 h

theorem trim_sublist (text : List Char) : (trim text).Sublist text := by
  have hright : (trim text).Sublist (trimLeft text) := by
    have h := (List.dropWhile_sublist (l := (trimLeft text).reverse) isBlank).reverse
    rwa [List.reverse_reverse] at h
  exact hright.trans (List.dropWhile_sublist isBlank)

theorem mem_of_mem_trim {text : List Char} {c : Char} (h : c ∈ trim text) : c ∈ text :=
  (trim_sublist text).subset h

theorem trim_of_isIdentifier {text : List Char} (h : isIdentifier text = true) :
    trim text = text :=
  trim_of_ends
    (fun c hc => isBlank_of_isIdentifierChar ((isIdentifier_iff.1 h).2 c (List.mem_of_head? hc)))
    (fun c hc => isBlank_of_isIdentifierChar ((isIdentifier_iff.1 h).2 c (List.mem_of_getLast? hc)))

/-- Trimming on the left stops at a character that is no blank. -/
theorem trimLeft_append_cons {c : Char} (hc : isBlank c = false) (text rest : List Char) :
    trimLeft (text ++ c :: rest) = trimLeft text ++ c :: rest := by
  induction text with
  | nil => exact trimLeft_of_head fun d hd => by cases hd; exact hc
  | cons d text ih =>
    cases hd : isBlank d with
    | true => simpa [trimLeft, hd] using ih
    | false => simp [trimLeft, hd]

theorem length_trimLeft_lt {text : List Char} {c : Char} (hc : c ∈ text.head?)
    (hblank : isBlank c = true) : (trimLeft text).length < text.length := by
  cases text with
  | nil => cases hc
  | cons d rest =>
    cases hc
    have htrim : trimLeft (c :: rest) = trimLeft rest := List.dropWhile_cons_of_pos hblank
    rw [htrim, List.length_cons]
    exact Nat.lt_succ_of_le (length_trimLeft_le rest)

end InstanceFilter.Text
