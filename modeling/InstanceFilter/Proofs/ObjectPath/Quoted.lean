/-
Strings between quotes, both ways. Writing a string and reading it back are inverse to each other,
whatever text follows: each string has one written form, and a text that reads is the written form
of what was read with the rest after it.

The text is also read by the bytes that its characters begin at, collecting the string on the way
and cutting the rest off after the closing quote. Characters are of one to four bytes, so that the
cut falls between two of them has to be shown: it falls after the bytes of the written form.
-/
import InstanceFilter.ObjectPath.Quoted
import InstanceFilter.Proofs.Text.Bytes

namespace InstanceFilter.ObjectPath

/-- A text reads as a string and a rest exactly when it is the written body of the string, its
closing quote and the rest. -/
theorem readQuoted_iff {key : String} {text s rest : List Char} :
    readQuoted key text = .ok (s, rest) ↔ text = escaped s ++ '"' :: rest := by
  constructor
  · exact eq_escaped_of_readQuoted
  · rintro rfl
    exact readQuoted_escaped key s rest

/-! ## Reading by bytes -/

/-- The characters of a text, each with the byte that it begins at. -/
def placed (start : Nat) : List Char → List (Nat × Char)
  | [] => []
  | c :: rest => (start, c) :: placed (start + c.utf8Size) rest

/-- Reads on after the characters in `body`, up to the closing quote; the byte after it is where the
rest begins. -/
def scanQuoted (key : String) (body : List Char) :
    List (Nat × Char) → Except ObjectPath.Error (List Char × Nat)
  | [] => .error (.unterminatedString key)
  | (place, '"') :: _ => .ok (body, place + 1)
  | [(_, '\\')] => .error (.unterminatedString key)
  | (_, '\\') :: (_, c) :: rest =>
    if c = '\\' ∨ c = '"' then scanQuoted key (body ++ [c]) rest else .error (.invalidEscape c)
  | (_, c) :: rest => scanQuoted key (body ++ [c]) rest

/-- The string that begins a text, and the bytes from the one after its closing quote on. -/
def readBytes (key text : String) : Except ObjectPath.Error (List Char × List UInt8) := do
  let (body, place) ← scanQuoted key [] (placed 0 text.toList)
  return (body, (Text.bytes text).drop place)

/-- The number of bytes of a text. -/
def byteCount (text : List Char) : Nat := (text.map Char.utf8Size).sum

/-- The scan ends after the bytes of the written form. -/
theorem scanQuoted_placed (key : String) (body text : List Char) (start : Nat) :
    scanQuoted key body (placed start text) = (readQuoted key text).map fun (s, _) =>
      (body ++ s, start + byteCount (escaped s) + 1) := by
  fun_induction readQuoted key text generalizing body start with
  | case1 => rfl
  | case2 rest =>
    show Except.ok (body, start + 1) = .ok (body ++ [], start + 0 + 1)
    rw [List.append_nil, Nat.add_zero]
  | case3 => rfl
  | case4 c rest hc ih =>
    rw [placed, placed, scanQuoted, if_pos hc, ih]
    cases readQuoted key rest with
    | error e => rfl
    | ok r =>
      simp only [Except.map, escaped, if_pos hc, byteCount, List.map_cons, List.sum_cons, List.append_assoc,
        List.singleton_append, Nat.add_assoc]
  | case5 c rest hc =>
    rw [placed, placed, scanQuoted, if_neg hc]
    rfl
  | case6 c rest hq hend hb ih =>
    have hslash : c ≠ '\\' := by
      rintro rfl
      cases rest with
      | nil => exact hend rfl rfl
      | cons d rest => exact hb d rest rfl rfl
    have hplain : ¬ (c = '\\' ∨ c = '"') := not_or.2 ⟨hslash, hq⟩
    rw [placed, scanQuoted, ih]
    · cases readQuoted key rest with
      | error e => rfl
      | ok r =>
        simp only [Except.map, escaped, if_neg hplain, byteCount, List.map_cons, List.sum_cons, List.append_assoc,
          List.singleton_append, Nat.add_assoc]
    · exact hq
    · exact fun _ => hslash
    · exact fun _ _ _ _ => hslash

theorem length_encoded (text : List Char) :
    (text.flatMap String.utf8EncodeChar).length = byteCount text := by
  simp only [List.length_flatMap, String.length_utf8EncodeChar, byteCount]

/-- Cutting by bytes leaves the bytes of what reading by characters leaves. -/
theorem readBytes_eq (key text : String) : readBytes key text =
    (readQuoted key text.toList).map fun (s, rest) => (s, Text.bytes (String.ofList rest)) := by
  rw [readBytes, scanQuoted_placed, Text.bytes_eq]
  cases h : readQuoted key text.toList with
  | error e => rfl
  | ok r =>
    obtain ⟨s, rest⟩ := r
    have hplace : 0 + byteCount (escaped s) + 1 =
        ((escaped s ++ ['"']).flatMap String.utf8EncodeChar).length := by
      rw [length_encoded, byteCount, byteCount, List.map_append, List.sum_append, Nat.zero_add]
      rfl
    show Except.ok (s, List.drop _ _) = .ok (s, Text.bytes (String.ofList rest))
    rw [readQuoted_iff.1 h, List.append_cons, List.flatMap_append, hplace, List.drop_left,
      Text.bytes_eq, String.toList_ofList]

/-! ## Both ways -/

/-- A text reads as a string and a rest exactly when it is, after an opening quote, the written form
of the string with the rest after it. So a body that is read up to its closing quote is that of its
string, written again. By bytes the same is read, and the rest is cut off after the closing quote. -/
theorem readQuoted_eq_ok_iff (key text s rest : String) :
    (readQuoted key text.toList = .ok (s.toList, rest.toList) ↔
      '"' :: text.toList = quoted s.toList ++ rest.toList) ∧
    (readQuoted key (text.toList ++ '"' :: rest.toList) = .ok (s.toList, rest.toList) ↔
      quoted s.toList = '"' :: text.toList ++ ['"']) ∧
    readBytes key text =
      (readQuoted key text.toList).map fun (s, rest) => (s, Text.bytes (String.ofList rest)) := by
  refine ⟨?_, ?_, readBytes_eq key text⟩
  · rw [readQuoted_iff, quoted, List.cons_append, List.cons_append, List.cons.injEq,
      List.append_assoc]
    exact (and_iff_right rfl).symm
  · rw [readQuoted_iff, List.append_left_inj, quoted, List.cons_append, List.cons_append,
      List.cons.injEq, List.append_left_inj, eq_comm]
    exact (and_iff_right rfl).symm

/-- A string that ends in a backslash, and one of quotes only. -/
example : readQuoted "k" (escaped ['a', '\\'] ++ ['"']) = .ok (['a', '\\'], []) ∧
    readQuoted "k" (escaped ['"', '"'] ++ ['"', ',']) = .ok (['"', '"'], [',']) := ⟨rfl, rfl⟩

end InstanceFilter.ObjectPath
