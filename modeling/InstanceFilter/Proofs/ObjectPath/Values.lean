/-
Values as they are written after a key: whatever a key is bound to, its text is read back up to
where it ends, as a number, a truth value or the body of a string. Every value ends in ink, so no
trimming shortens a text that ends in one.
-/
import InstanceFilter.Proofs.Text.Identifier
import InstanceFilter.ObjectPath.Outline
import InstanceFilter.ObjectPath.Printer

namespace InstanceFilter

/-! ## Signed numbers -/

namespace Text

theorem signed_natCast (n : Nat) : signed n = Nat.toDigits 10 n := Nat.toList_repr

theorem signed_negSucc (n : Nat) : signed (.negSucc n) = '-' :: Nat.toDigits 10 (n + 1) := by
  have h : toString (Int.negSucc n) = "-" ++ (n + 1).repr := rfl
  rw [signed, h, String.toList_append, Nat.toList_repr]
  rfl

/-- What a number is written with. -/
theorem mem_signed {n : Int} {c : Char} (h : c ∈ signed n) : c = '-' ∨ c.isDigit = true := by
  cases n with
  | ofNat n =>
    rw [Int.ofNat_eq_natCast, signed_natCast] at h
    exact .inr (Nat.isDigit_of_mem_toDigits (by decide) (by decide) h)
  | negSucc n =>
    rw [signed_negSucc] at h
    rcases List.mem_cons.1 h with rfl | h
    · exact .inl rfl
    · exact .inr (Nat.isDigit_of_mem_toDigits (by decide) (by decide) h)

theorem signed_ne_nil (n : Int) : signed n ≠ [] := by
  cases n with
  | ofNat n =>
    rw [Int.ofNat_eq_natCast, signed_natCast]
    exact Nat.toDigits_ne_nil
  | negSucc n =>
    rw [signed_negSucc]
    exact List.cons_ne_nil _ _

end Text

theorem KeyInteger.ofInt?_toInt (n : KeyInteger) : ofInt? n.toInt = some n := dif_pos n.inRange

theorem KeyInteger.ofInt?_eq_some_iff {n : Int} {k : KeyInteger} :
    ofInt? n = some k ↔ k.toInt = n := by
  constructor
  · intro h
    unfold ofInt? at h
    split at h
    · cases h
      rfl
    · cases h
  · rintro rfl
    exact k.ofInt?_toInt

namespace ObjectPath

theorem isDigit_of_mem_toDigits {n : Nat} {c : Char} (h : c ∈ Nat.toDigits 10 n) :
    c.isDigit = true :=
  Nat.isDigit_of_mem_toDigits (by decide) (by decide) h

theorem signedNumber?_minus {digits : List Char} (hne : digits ≠ [])
    (h : ∀ c ∈ digits, c.isDigit = true) :
    signedNumber? ('-' :: digits) = some (-(Nat.ofDigitChars 10 digits 0 : Int)) := by
  simp [signedNumber?, hne, List.all_eq_true.2 h, Nat.ofDigitChars_eq_foldl]

theorem signedNumber?_digits {digits : List Char} (hne : digits ≠ [])
    (h : ∀ c ∈ digits, c.isDigit = true) :
    signedNumber? digits = some (Nat.ofDigitChars 10 digits 0 : Int) := by
  have hminus : ∀ rest, digits ≠ '-' :: rest := by
    rintro rest rfl
    exact absurd (h '-' (by simp)) (by decide)
  have hplus : ∀ rest, digits ≠ '+' :: rest := by
    rintro rest rfl
    exact absurd (h '+' (by simp)) (by decide)
  simp [signedNumber?, hne, List.all_eq_true.2 h, Nat.ofDigitChars_eq_foldl]

theorem signedNumber?_plus {digits : List Char} (hne : digits ≠ [])
    (h : ∀ c ∈ digits, c.isDigit = true) :
    signedNumber? ('+' :: digits) = some (Nat.ofDigitChars 10 digits 0 : Int) := by
  simp [signedNumber?, hne, List.all_eq_true.2 h, Nat.ofDigitChars_eq_foldl]

/-- A number is read of digits only, with a sign before them or without. -/
theorem exists_digits_of_signedNumber? {token : List Char} {n : Int}
    (h : signedNumber? token = some n) : ∃ sign digits, token = sign ++ digits ∧
      (sign = [] ∨ sign = ['+'] ∨ sign = ['-']) ∧ digits ≠ [] ∧
        ∀ c ∈ digits, c.isDigit = true := by
  unfold signedNumber? at h
  split at h
  next negative digits hsign =>
    split at h
    · cases h
    · next hdigits =>
      simp only [Bool.or_eq_true, not_or, Bool.not_eq_true', Bool.not_eq_false, List.isEmpty_iff,
        List.all_eq_true] at hdigits
      split at hsign
      · cases hsign
        exact ⟨['-'], digits, rfl, .inr (.inr rfl), hdigits⟩
      · cases hsign
        exact ⟨['+'], digits, rfl, .inr (.inl rfl), hdigits⟩
      · cases hsign
        exact ⟨[], token, rfl, .inl rfl, hdigits⟩

theorem signedNumber?_signed (n : Int) : signedNumber? (Text.signed n) = some n := by
  cases n with
  | ofNat n =>
    rw [Int.ofNat_eq_natCast, Text.signed_natCast,
      signedNumber?_digits Nat.toDigits_ne_nil fun _ => isDigit_of_mem_toDigits,
      Nat.ofDigitChars_ten_toDigits]
  | negSucc n =>
    rw [Text.signed_negSucc,
      signedNumber?_minus Nat.toDigits_ne_nil fun _ => isDigit_of_mem_toDigits,
      Nat.ofDigitChars_ten_toDigits]
    rfl

/-! ## Values without quotes -/

theorem toLower_of_isDigit {c : Char} (h : c.isDigit = true) : c.toLower = c := by
  have hval : c.val.toNat = c.toNat := rfl
  have hlast := (Char.isDigit_iff_toNat.1 h).2
  refine dif_neg fun hupper => ?_
  have hfirst := UInt32.le_iff_toNat_le.1 hupper.1
  rw [hval] at hfirst
  exact absurd (Nat.le_trans hfirst hlast) (by decide)

/-- No letter stands in a number, so a number is no truth value. -/
theorem bareValue_of_signedNumber? (key : String) {token : List Char} {n : KeyInteger}
    (h : signedNumber? token = some n.toInt) : bareValue key token = .ok (.integer n) := by
  -- both truth values are spelled with an e
  have hletter : 'e' ∉ token.map Char.toLower := by
    obtain ⟨sign, digits, rfl, hsign, -, hdigits⟩ := exists_digits_of_signedNumber? h
    rw [List.map_append, List.map_congr_left fun c hc => toLower_of_isDigit (hdigits c hc),
      List.map_id', List.mem_append, not_or]
    refine ⟨?_, fun he => absurd (hdigits _ he) (by decide)⟩
    rcases hsign with rfl | rfl | rfl <;> decide
  have htrue : token.map Char.toLower ≠ "true".toList := fun h => hletter (by rw [h]; decide)
  have hfalse : token.map Char.toLower ≠ "false".toList := fun h => hletter (by rw [h]; decide)
  simp only [bareValue, if_neg htrue, if_neg hfalse, h, Option.bind_some,
    KeyInteger.ofInt?_toInt]

theorem bareValue_boolean (key : String) (b : Bool) :
    bareValue key (KeyValue.boolean b).render = .ok (.boolean b) := by
  cases b <;> rfl

/-! ## Values as they stand in the text -/

end ObjectPath

/-- A value before it is known whether a quoted text is a path. -/
def KeyValue.raw : KeyValue → ObjectPath.RawValue
  | .text s => .quoted s.toList
  | .reference path => .quoted path.render
  | .boolean b => .plain (.boolean b)
  | .integer n => .plain (.integer n)

def KeyBinding.raw (b : KeyBinding) : ObjectPath.RawBinding := ⟨b.name, b.value.raw⟩

namespace ObjectPath

/-- The text goes on with a comma or ends. -/
def Continues (rest : List Char) : Prop := ∀ c ∈ rest.head?, c = ','

theorem ne_of_not_mem {token : List Char} {c d : Char} (h : d ∉ token) (hc : c ∈ token) :
    (c != d) = true := bne_iff_ne.2 fun he => h (he ▸ hc)

theorem takeWhile_of_continues {token rest : List Char} (h : ',' ∉ token) (hr : Continues rest) :
    (token ++ rest).takeWhile (· != ',') = token := by
  rw [List.takeWhile_append_of_pos fun c hc => ne_of_not_mem h hc]
  cases rest with
  | nil => exact List.append_nil token
  | cons c rest => simp [hr c rfl]

theorem dropWhile_of_continues {token rest : List Char} (h : ',' ∉ token) (hr : Continues rest) :
    (token ++ rest).dropWhile (· != ',') = rest := by
  rw [List.dropWhile_append_of_pos fun c hc => ne_of_not_mem h hc]
  cases rest with
  | nil => rfl
  | cons c rest => simp [hr c rfl]

/-- A character that stands for itself in a value without quotes. -/
structure Plain (c : Char) : Prop where
  ink : Text.isBlank c = false
  ne_comma : c ≠ ','
  ne_quote : c ≠ '"'

theorem plain_of_isIdentifierChar {c : Char} (h : Text.isIdentifierChar c = true) : Plain c where
  ink := Text.isBlank_of_isIdentifierChar h
  ne_comma := by
    rintro rfl
    exact absurd h (by decide)
  ne_quote := by
    rintro rfl
    exact absurd h (by decide)

theorem plain_of_mem_signed {n : Int} {c : Char} (h : c ∈ Text.signed n) : Plain c := by
  rcases Text.mem_signed h with rfl | hd
  · exact ⟨Text.isBlank_eq_false (by decide), by decide, by decide⟩
  · exact plain_of_isIdentifierChar (by simp [Text.isIdentifierChar, Text.isAlphanumeric, hd])

theorem plain_of_mem_boolean {b : Bool} {c : Char} (h : c ∈ (KeyValue.boolean b).render) :
    Plain c := by
  have hall : (KeyValue.boolean b).render.all Text.isIdentifierChar = true := by
    cases b <;> decide
  exact plain_of_isIdentifierChar (List.all_eq_true.1 hall c h)

/-- A token without quotes and commas is read whole when nothing but a comma can follow it. -/
theorem readValue_bare {key : String} {token rest : List Char} {value : KeyValue}
    (hquote : '"' ∉ token) (hcomma : ',' ∉ token)
    (hv : bareValue key (Text.trim token) = .ok value) (hr : Continues rest) :
    readValue key (token ++ rest) = .ok (.plain value, rest) := by
  unfold readValue
  split
  · next heq =>
    cases token with
    | nil =>
      cases heq
      exact absurd (hr '"' rfl) (by decide)
    | cons c token =>
      cases heq
      exact absurd List.mem_cons_self hquote
  · simp only
    rw [takeWhile_of_continues hcomma hr, dropWhile_of_continues hcomma hr, hv]
    rfl

theorem readValue_quoted (key : String) (s rest : List Char) :
    readValue key (quoted s ++ rest) = .ok (.quoted s, rest) := by
  have h := readQuoted_escaped key s rest
  simp [quoted, readValue, h, Except.map]

/-! ## Where texts end -/

/-- The text is not empty, and its last character is no blank. -/
def EndsInInk (text : List Char) : Prop := ∃ c, text.getLast? = some c ∧ Text.isBlank c = false

theorem EndsInInk.append (before : List Char) {text : List Char} (h : EndsInInk text) :
    EndsInInk (before ++ text) := by
  obtain ⟨c, hc, hink⟩ := h
  exact ⟨c, by rw [List.getLast?_append, hc, Option.some_or], hink⟩

theorem EndsInInk.cons (c : Char) {text : List Char} (h : EndsInInk text) : EndsInInk (c :: text) :=
  h.append [c]

theorem EndsInInk.last {text : List Char} (h : EndsInInk text) :
    ∀ c ∈ text.getLast?, Text.isBlank c = false := by
  obtain ⟨c, hc, hink⟩ := h
  intro d hd
  rw [hc] at hd
  cases hd
  exact hink

theorem endsInInk_of_plain {text : List Char} (hne : text ≠ []) (h : ∀ c ∈ text, Plain c) :
    EndsInInk text :=
  ⟨text.getLast hne, List.getLast?_eq_some_getLast hne, (h _ (List.getLast_mem hne)).ink⟩

theorem endsInInk_quoted (s : List Char) : EndsInInk (quoted s) :=
  EndsInInk.append ('"' :: escaped s) ⟨'"', rfl, Text.isBlank_eq_false (by decide)⟩

theorem endsInInk_render (value : KeyValue) : EndsInInk value.render := by
  cases value with
  | text s => exact endsInInk_quoted s.toList
  | reference path => exact endsInInk_quoted path.render
  | boolean b =>
    refine endsInInk_of_plain ?_ fun c => plain_of_mem_boolean
    cases b <;> decide
  | integer n => exact endsInInk_of_plain (Text.signed_ne_nil _) fun c => plain_of_mem_signed

end ObjectPath

end InstanceFilter
