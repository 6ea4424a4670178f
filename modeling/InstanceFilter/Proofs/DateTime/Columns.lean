/-
Texts of fixed columns: numbers of a fixed width, padded with zeros, between single characters. A
text that is made of columns is read column by column at the places where they stand, and a text
whose columns read is made of them: digits of a fixed width and the numbers below the power of ten
correspond one to one.
-/
import InstanceFilter.DateTime.Parser
import InstanceFilter.DateTime.Printer
import InstanceFilter.Proofs.Fallible
import Mathlib

namespace InstanceFilter.DateTime

open Nat (ofDigitChars)

/-! ## Digits -/

/-- The value of a digit is below ten, and the digit is told by it. -/
theorem digit_lt {c : Char} (h : c.isDigit = true) : c.toNat - '0'.toNat < 10 := by
  have := Char.isDigit_iff_toNat.1 h
  have h0 : '0'.toNat = 48 := rfl
  have h9 : '9'.toNat = 57 := rfl
  omega

theorem digit_inj {c d : Char} (hc : c.isDigit = true) (hd : d.isDigit = true)
    (h : c.toNat - '0'.toNat = d.toNat - '0'.toNat) : c = d := by
  have := Char.isDigit_iff_toNat.1 hc
  have := Char.isDigit_iff_toNat.1 hd
  exact Char.toNat_inj.1 (by omega)

theorem ofDigitChars_lt {digits : List Char} (h : ∀ c ∈ digits, c.isDigit = true) :
    ofDigitChars 10 digits 0 < 10 ^ digits.length := by
  induction digits with
  | nil => exact Nat.one_pos
  | cons c rest ih =>
    have hc := digit_lt (h c List.mem_cons_self)
    have hrest := ih fun d hd => h d (List.mem_cons_of_mem c hd)
    rw [Nat.ofDigitChars_cons, Nat.ofDigitChars_eq_ofDigitChars_zero, List.length_cons,
      Nat.pow_succ]
    generalize c.toNat - '0'.toNat = v at hc
    generalize 10 ^ rest.length = p at hrest ⊢
    have : p * (10 * 0 + v) ≤ p * 9 := Nat.mul_le_mul_left p (by omega)
    omega

/-- Digits of one width are told apart by the number they write. -/
theorem ofDigitChars_inj {as bs : List Char} (hlen : as.length = bs.length)
    (ha : ∀ c ∈ as, c.isDigit = true) (hb : ∀ c ∈ bs, c.isDigit = true)
    (h : ofDigitChars 10 as 0 = ofDigitChars 10 bs 0) : as = bs := by
  induction as generalizing bs with
  | nil => exact (List.eq_nil_of_length_eq_zero hlen.symm).symm
  | cons a as ih =>
    cases bs with
    | nil => cases hlen
    | cons b bs =>
      have hlen : as.length = bs.length := Nat.succ.inj hlen
      have ha' : ∀ c ∈ as, c.isDigit = true := fun c hc => ha c (List.mem_cons_of_mem a hc)
      have hb' : ∀ c ∈ bs, c.isDigit = true := fun c hc => hb c (List.mem_cons_of_mem b hc)
      have hla := ofDigitChars_lt ha'
      have hlb := ofDigitChars_lt hb'
      simp only [Nat.ofDigitChars_cons] at h
      rw [Nat.ofDigitChars_eq_ofDigitChars_zero, @Nat.ofDigitChars_eq_ofDigitChars_zero bs,
        hlen] at h
      rw [hlen] at hla
      -- both sides are a first digit times a power of ten and a rest below that power
      have hpos : 0 < 10 ^ bs.length := Nat.pow_pos (by decide)
      have hdiv := congrArg (· / 10 ^ bs.length) h
      have hmod := congrArg (· % 10 ^ bs.length) h
      simp only [Nat.mul_add_div hpos, Nat.mul_add_mod, Nat.div_eq_of_lt hla, Nat.div_eq_of_lt hlb,
        Nat.mod_eq_of_lt hla, Nat.mod_eq_of_lt hlb, Nat.mul_zero, Nat.zero_add,
        Nat.add_zero] at hdiv hmod
      rw [digit_inj (ha a List.mem_cons_self) (hb b List.mem_cons_self) hdiv, ih hlen ha' hb' hmod]

/-! ## Numbers of a fixed width -/

theorem isDigit_of_mem_padded {width n : Nat} {c : Char} (h : c ∈ padded width n) :
    c.isDigit = true := by
  rcases List.mem_append.1 h with h | h
  · rw [List.eq_of_mem_replicate h]
    rfl
  · exact Nat.isDigit_of_mem_toDigits (by decide) (by decide) h

theorem length_padded {width n : Nat} (hw : 0 < width) (h : n < 10 ^ width) :
    (padded width n).length = width := by
  have := (Nat.length_toDigits_le_iff (by decide) hw).2 h
  simp only [padded, List.length_append, List.length_replicate]
  omega

theorem ofDigitChars_padded (width n : Nat) : ofDigitChars 10 (padded width n) 0 = n := by
  rw [padded, Nat.ofDigitChars_append, Nat.ofDigitChars_replicate_zero, Nat.mul_zero,
    Nat.ofDigitChars_ten_toDigits]

theorem padded_ofDigitChars {digits : List Char} (hne : digits ≠ [])
    (h : ∀ c ∈ digits, c.isDigit = true) :
    padded digits.length (ofDigitChars 10 digits 0) = digits :=
  ofDigitChars_inj (length_padded (List.length_pos_iff.2 hne) (ofDigitChars_lt h))
    (fun _ => isDigit_of_mem_padded) h (ofDigitChars_padded _ _)

/-! ## Reading fields -/

theorem readDigits_eq_ok_iff {position acc n : Nat} {text : List Char} :
    readDigits position acc text = .ok n ↔
      (∀ c ∈ text, c.isDigit = true) ∧ n = ofDigitChars 10 text acc := by
  induction text generalizing position acc with
  | nil => exact ⟨fun h => ⟨nofun, (Except.ok.inj h).symm⟩, fun h => congrArg _ h.2.symm⟩
  | cons c rest ih =>
    rw [readDigits, List.forall_mem_cons, Nat.ofDigitChars_cons]
    by_cases hc : c.isDigit = true
    · rw [if_pos hc, ih]
      exact ⟨fun h => ⟨⟨hc, h.1⟩, h.2⟩, fun h => ⟨h.1.2, h.2⟩⟩
    · rw [if_neg hc]
      exact ⟨fun h => (nomatch h), fun h => absurd h.1.1 hc⟩

/-- A field reads as a number exactly when the number, padded to its width, stands there. -/
theorem readField_eq_ok_iff {text : List Char} {start width n : Nat} (hw : 0 < width)
    (hlen : start + width ≤ text.length) :
    readField text start (start + width) = .ok n ↔
      n < 10 ^ width ∧ (text.drop start).take width = padded width n := by
  rw [readField, Nat.add_sub_cancel_left, readDigits_eq_ok_iff]
  have hlength : ((text.drop start).take width).length = width := by
    rw [List.length_take, List.length_drop]
    omega
  generalize (text.drop start).take width = field at hlength
  constructor
  · rintro ⟨hdigits, rfl⟩
    have hne : field ≠ [] := List.length_pos_iff.1 (by omega)
    have hlt := ofDigitChars_lt hdigits
    have hback := padded_ofDigitChars hne hdigits
    rw [hlength] at hlt hback
    exact ⟨hlt, hback.symm⟩
  · rintro ⟨-, rfl⟩
    exact ⟨fun _ => isDigit_of_mem_padded, (ofDigitChars_padded width n).symm⟩

/-! ## Columns -/

inductive Column where
  | number (width n : Nat)
  | mark (c : Char)

namespace Column

def width : Column → Nat
  | .number width _ => width
  | .mark _ => 1

def text : Column → List Char
  | .number width n => padded width n
  | .mark c => [c]

/-- The number has no more digits than its column has places. -/
def Fits : Column → Prop
  | .number width n => 0 < width ∧ n < 10 ^ width
  | .mark _ => True

/-- What stands in a text from a place on reads as the column. -/
def ReadAt (text : List Char) (place : Nat) : Column → Prop
  | .number width n => readField text place (place + width) = .ok n
  | .mark c => text[place]? = some c

theorem length_text {column : Column} (h : column.Fits) : column.text.length = column.width := by
  cases column with
  | number width n => exact length_padded h.1 h.2
  | mark c => rfl

theorem readAt_iff {text : List Char} {place : Nat} {column : Column} (hw : 0 < column.width)
    (hlen : place + column.width ≤ text.length) :
    column.ReadAt text place ↔
      column.Fits ∧ (text.drop place).take column.width = column.text := by
  cases column with
  | number width n =>
    exact (readField_eq_ok_iff hw hlen).trans
      ⟨fun h => ⟨⟨hw, h.1⟩, h.2⟩, fun h => ⟨h.1.2, h.2⟩⟩
  | mark c =>
    have hlt : place < text.length := hlen
    have hdrop : (text.drop place).take 1 = [text[place]] := by
      rw [List.drop_eq_getElem_cons hlt]
      rfl
    show text[place]? = some c ↔ True ∧ (text.drop place).take 1 = [c]
    simp [hdrop, List.getElem?_eq_getElem hlt]

end Column

/-- The width of columns side by side. -/
def totalWidth (columns : List Column) : Nat := (columns.map Column.width).sum

/-- The columns read one after the other, from a place in the text on. -/
def ReadFrom (text : List Char) : Nat → List Column → Prop
  | _, [] => True
  | place, column :: rest => column.ReadAt text place ∧ ReadFrom text (place + column.width) rest

/-- A text as wide as its columns reads as them exactly when it is made of them. -/
theorem readFrom_iff {text : List Char} {place : Nat} {columns : List Column}
    (hw : ∀ column ∈ columns, 0 < column.width) (hlen : place + totalWidth columns = text.length) :
    ReadFrom text place columns ↔
      (∀ column ∈ columns, column.Fits) ∧ text.drop place = columns.flatMap Column.text := by
  induction columns generalizing place with
  | nil =>
    have hend : text.length ≤ place := Nat.le_of_eq hlen.symm
    simp [ReadFrom, List.drop_eq_nil_of_le hend]
  | cons column rest ih =>
    obtain ⟨hcolumn, hrest⟩ := List.forall_mem_cons.1 hw
    have hwidth : totalWidth (column :: rest) = column.width + totalWidth rest := by
      simp [totalWidth]
    rw [hwidth] at hlen
    have hsplit : text.drop place =
        (text.drop place).take column.width ++ text.drop (place + column.width) := by
      rw [← List.drop_drop, List.take_append_drop]
    rw [ReadFrom, Column.readAt_iff hcolumn (by omega), ih hrest (by omega), List.forall_mem_cons,
      List.flatMap_cons]
    constructor
    · rintro ⟨⟨hfits, htext⟩, hfits', htext'⟩
      exact ⟨⟨hfits, hfits'⟩, by rw [hsplit, htext, htext']⟩
    · rintro ⟨⟨hfits, hfits'⟩, htext⟩
      rw [hsplit] at htext
      have htake : ((text.drop place).take column.width).length = column.text.length := by
        rw [Column.length_text hfits, List.length_take, List.length_drop]
        omega
      obtain ⟨hhead, htail⟩ := List.append_inj htext htake
      exact ⟨⟨hfits, hhead⟩, hfits', htail⟩

end InstanceFilter.DateTime
