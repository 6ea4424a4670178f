/-
Strings inside an object path: in double quotes, with a backslash before every backslash and double
quote. Reading the body of a written string gives the string back and leaves what follows it.
-/
import InstanceFilter.ObjectPath.Basic

namespace InstanceFilter.ObjectPath

/-- The characters between the quotes. -/
def escaped : List Char → List Char
  | [] => []
  | c :: rest => if c = '\\' ∨ c = '"' then '\\' :: c :: escaped rest else c :: escaped rest

def quoted (s : List Char) : List Char := '"' :: escaped s ++ ['"']

/-- Reads a string whose opening quote has been read, up to its closing quote. -/
def readQuoted (key : String) : List Char → Except ObjectPath.Error (List Char × List Char)
  | [] => .error (.unterminatedString key)
  | '"' :: rest => .ok ([], rest)
  | ['\\'] => .error (.unterminatedString key)
  | '\\' :: c :: rest =>
    if c = '\\' ∨ c = '"' then
      (readQuoted key rest).map fun (body, after) => (c :: body, after)
    else .error (.invalidEscape c)
  | c :: rest => (readQuoted key rest).map fun (body, after) => (c :: body, after)

/-! ## Reading and writing -/

/-- Reading a written string gives the string back and leaves what follows it. -/
theorem readQuoted_escaped (key : String) (s rest : List Char) :
    readQuoted key (escaped s ++ '"' :: rest) = .ok (s, rest) := by
  induction s with
  | nil => rfl
  | cons c s ih =>
    by_cases hc : c = '\\' ∨ c = '"'
    · simp [escaped, hc, readQuoted, ih, Except.map]
    · obtain ⟨hb, hq⟩ := not_or.1 hc
      simp [escaped, hb, hq, readQuoted, ih, Except.map]

/-- Whatever reads as a string is how that string is written. -/
theorem eq_escaped_of_readQuoted {key : String} {text body after : List Char}
    (h : readQuoted key text = .ok (body, after)) : text = escaped body ++ '"' :: after := by
  fun_induction readQuoted key text generalizing body after with
  | case1 => cases h
  | case2 rest => cases h; rfl
  | case3 => cases h
  | case4 c rest hc ih =>
    cases hr : readQuoted key rest with
    | error e => rw [hr] at h; cases h
    | ok r =>
      rw [hr] at h
      cases h
      simp [escaped, hc, ih hr]
  | case5 => cases h
  | case6 c rest hq hend hb ih =>
    cases hr : readQuoted key rest with
    | error e => rw [hr] at h; cases h
    | ok r =>
      rw [hr] at h
      cases h
      have hc : ¬ (c = '\\' ∨ c = '"') := by
        rintro (rfl | rfl)
        · cases rest with
          | nil => exact hend rfl rfl
          | cons d rest => exact hb d rest rfl rfl
        · exact hq rfl
      simp [escaped, hc, ih hr]

/-! ## Lengths -/

/-- The body and the text after it are together shorter than the text read. -/
theorem length_readQuoted {key : String} {text body after : List Char}
    (h : readQuoted key text = .ok (body, after)) :
    body.length + after.length < text.length := by
  fun_induction readQuoted key text generalizing body after with
  | case1 => cases h
  | case2 rest => cases h; simp
  | case3 => cases h
  | case4 c rest hc ih =>
    cases hr : readQuoted key rest with
    | error e => rw [hr] at h; cases h
    | ok r =>
      obtain ⟨body', after'⟩ := r
      rw [hr] at h
      cases h
      have := ih hr
      simp only [List.length_cons]
      omega
  | case5 c rest hc => cases h
  | case6 c rest _ _ _ ih =>
    cases hr : readQuoted key rest with
    | error e => rw [hr] at h; cases h
    | ok r =>
      obtain ⟨body', after'⟩ := r
      rw [hr] at h
      cases h
      have := ih hr
      simp only [List.length_cons]
      omega

end InstanceFilter.ObjectPath
