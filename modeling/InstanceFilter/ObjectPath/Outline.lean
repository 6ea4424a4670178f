/-
The outline of an object path: its parts as they stand in the text, before it is known which quoted
values are themselves paths. Each separator is the first of its kind, so the parts are found from
left to right: host, namespace, class, then the key bindings one after the other.
-/
import InstanceFilter.ObjectPath.Quoted
import InstanceFilter.Text.Blank
import InstanceFilter.Text.Identifier

namespace InstanceFilter.ObjectPath

/-- A key value as it stands in the text. -/
inductive RawValue where
  | quoted (body : List Char)
  | plain (value : KeyValue)

structure RawBinding where
  name : String
  value : RawValue

structure Outline where
  host : Option String
  space : Option String
  className : String
  bindings : List RawBinding

/-- The text before the first `c` and the text after it. -/
def splitFirst? (c : Char) : List Char → Option (List Char × List Char)
  | [] => none
  | x :: rest =>
    if x = c then some ([], rest)
    else (splitFirst? c rest).map fun (before, after) => (x :: before, after)

/-! ## Key bindings -/

/-- The number that digits in base ten write, with an optional sign before them. -/
def signedNumber? (token : List Char) : Option Int :=
  let (negative, digits) := match token with
    | '-' :: rest => (true, rest)
    | '+' :: rest => (false, rest)
    | _ => (false, token)
  if digits.isEmpty || !digits.all Char.isDigit then none
  else
    let n : Nat := digits.foldl (fun n d => 10 * n + (d.toNat - '0'.toNat)) 0
    some (if negative then -n else n)

/-- A value without quotes: a truth value in any case, or a whole number of 128 bits. -/
def bareValue (key : String) (token : List Char) : Except ObjectPath.Error KeyValue :=
  let folded := token.map Char.toLower
  if folded = "true".toList then .ok (.boolean true)
  else if folded = "false".toList then .ok (.boolean false)
  else match (signedNumber? token).bind KeyInteger.ofInt? with
    | some n => .ok (.integer n)
    | none => .error (.invalidKeyValue key (String.ofList token))

/-- The value at the start of a text, and the text after it. -/
def readValue (key : String) : List Char → Except ObjectPath.Error (RawValue × List Char)
  | '"' :: rest => (readQuoted key rest).map fun (body, after) => (.quoted body, after)
  | text =>
    let token := text.takeWhile (· != ',')
    (bareValue key (Text.trim token)).map fun value => (.plain value, text.dropWhile (· != ','))

/-- The binding at the start of a text, and the text after it. -/
def readBinding (text : List Char) : Except ObjectPath.Error (RawBinding × List Char) :=
  match splitFirst? '=' text with
  | none => .error (.invalidKeyName (String.ofList text))
  | some (before, after) =>
    let name := Text.trim before
    if ¬ Text.isIdentifier name then .error (.invalidKeyName (String.ofList name))
    else (readValue (String.ofList name) after).map fun (value, rest) =>
      (⟨String.ofList name, value⟩, rest)

/-! ### Lengths -/

theorem length_splitFirst? {c : Char} {text before after : List Char}
    (h : splitFirst? c text = some (before, after)) :
    before.length + after.length + 1 = text.length := by
  fun_induction splitFirst? c text generalizing before after with
  | case1 => cases h
  | case2 rest => cases h; simp
  | case3 x rest _ ih =>
    cases hr : splitFirst? c rest with
    | none => rw [hr] at h; cases h
    | some r =>
      obtain ⟨before', after'⟩ := r
      rw [hr] at h
      cases h
      have := ih hr
      simp only [List.length_cons]
      omega

/-- How much of the text a raw value accounts for. -/
def RawValue.length : RawValue → Nat
  | .quoted body => body.length
  | .plain _ => 0

theorem length_readValue {key : String} {text after : List Char} {value : RawValue}
    (h : readValue key text = .ok (value, after)) :
    value.length + after.length ≤ text.length := by
  unfold readValue at h
  split at h
  · next rest =>
    cases hr : readQuoted key rest with
    | error e => rw [hr] at h; cases h
    | ok r =>
      obtain ⟨body, after'⟩ := r
      rw [hr] at h
      cases h
      have := length_readQuoted hr
      simp only [RawValue.length, List.length_cons]
      omega
  · simp only at h
    cases hr : bareValue key (Text.trim (text.takeWhile (· != ','))) with
    | error e => rw [hr] at h; cases h
    | ok r =>
      rw [hr] at h
      cases h
      have := (List.dropWhile_sublist (l := text) (· != ',')).length_le
      simp only [RawValue.length]
      omega

/-- Reading a binding leaves less text, and a quoted value is shorter than the text it stood in. -/
theorem length_readBinding {text after : List Char} {binding : RawBinding}
    (h : readBinding text = .ok (binding, after)) :
    binding.value.length + after.length < text.length := by
  unfold readBinding at h
  split at h
  · cases h
  · next before rest hs =>
    simp only at h
    split at h
    · cases h
    · cases hr : readValue (String.ofList (Text.trim before)) rest with
      | error e => rw [hr] at h; cases h
      | ok r =>
        obtain ⟨value, after'⟩ := r
        rw [hr] at h
        cases h
        have := length_readValue hr
        have := length_splitFirst? hs
        simp only
        omega

/-- All bindings of a text, with a comma between one and the next. -/
def readBindings (text : List Char) : Except ObjectPath.Error (List RawBinding) :=
  match h : readBinding text with
  | .error e => .error e
  | .ok (binding, []) => .ok [binding]
  | .ok (binding, c :: rest) =>
    have : rest.length < text.length := by
      have := length_readBinding h
      simp only [List.length_cons] at this
      omega
    if c = ',' then (readBindings rest).map (binding :: ·) else .error (.trailingCharacter c)
termination_by text.length

theorem length_of_mem_readBindings {text : List Char} {bindings : List RawBinding}
    (h : readBindings text = .ok bindings) {b : RawBinding} (hb : b ∈ bindings) :
    b.value.length < text.length := by
  fun_induction readBindings text generalizing bindings with
  | case1 => cases h
  | case2 text binding hr =>
    cases h
    have := length_readBinding hr
    simp only [List.mem_singleton] at hb
    subst hb
    omega
  | case3 text binding rest hr _ ih =>
    cases hr' : readBindings rest with
    | error e => rw [hr'] at h; cases h
    | ok bs =>
      rw [hr'] at h
      cases h
      have hlen := length_readBinding hr
      simp only [List.length_cons] at hlen
      rcases List.mem_cons.1 hb with rfl | hb
      · omega
      · have := ih hr' hb
        omega
  | case4 => cases h

/-! ## The parts before the bindings -/

/-- The host of a text that starts with two slashes, up to the next slash. -/
def readHost : List Char → Except ObjectPath.Error (Option String × List Char)
  | '/' :: '/' :: rest =>
    match splitFirst? '/' rest with
    | some (host, after) => .ok (some (String.ofList host), after)
    | none => .error .hostWithoutNamespace
  | text => .ok (none, text)

/-- The namespace of a text whose first colon comes before its first point. -/
def readNamespace (text : List Char) : Option String × List Char :=
  match splitFirst? ':' text with
  | some (before, after) =>
    if before.contains '.' then (none, text) else (namespace? (String.ofList before), after)
  | none => (none, text)

/-- The class name and the text of the bindings, if there is a point. -/
def readClass (text : List Char) : List Char × Option (List Char) :=
  match splitFirst? '.' text with
  | some (before, after) => (before, some after)
  | none => (text, none)

/-- The outline of a text whose host has been read. -/
def readAfterHost (host : Option String) (text : List Char) : Except ObjectPath.Error Outline :=
  let (space, rest) := readNamespace text
  if host.isSome && space.isNone then .error .hostWithoutNamespace
  else
    let (className, keyText) := readClass rest
    if ¬ Text.isIdentifier className then .error (.invalidClassName (String.ofList className))
    else match keyText with
      | none => .ok ⟨host, space, String.ofList className, []⟩
      | some [] => .error .missingKeys
      | some keyText =>
        (readBindings keyText).map fun bindings => ⟨host, space, String.ofList className, bindings⟩

/-- The outline of a path, blanks around it aside. -/
def readOutline (text : List Char) : Except ObjectPath.Error Outline :=
  match Text.trim text with
  | [] => .error .empty
  | text => (readHost text).bind fun (host, rest) => readAfterHost host rest

/-! ### Lengths -/

theorem length_readHost {text rest : List Char} {host : Option String}
    (h : readHost text = .ok (host, rest)) : rest.length ≤ text.length := by
  unfold readHost at h
  split at h
  · next after =>
    split at h
    · next hs =>
      cases h
      have := length_splitFirst? hs
      simp only [List.length_cons]
      omega
    · cases h
  · cases h
    exact Nat.le_refl _

theorem length_readNamespace (text : List Char) : (readNamespace text).2.length ≤ text.length := by
  unfold readNamespace
  split
  · next hs =>
    have := length_splitFirst? hs
    split <;> simp only <;> omega
  · exact Nat.le_refl _

theorem length_readClass {text keyText : List Char} (h : (readClass text).2 = some keyText) :
    keyText.length ≤ text.length := by
  unfold readClass at h
  split at h
  · next hs =>
    cases h
    have := length_splitFirst? hs
    omega
  · cases h

theorem length_of_mem_readAfterHost {host : Option String} {text : List Char} {outline : Outline}
    (h : readAfterHost host text = .ok outline) {b : RawBinding} (hb : b ∈ outline.bindings) :
    b.value.length < text.length := by
  unfold readAfterHost at h
  have hspace := length_readNamespace text
  simp only at h
  split at h
  · cases h
  · split at h
    · cases h
    · split at h
      · cases h
        simp at hb
      · cases h
      · next keyText _ hk =>
        have hclass := length_readClass hk
        cases hr : readBindings keyText with
        | error e => rw [hr] at h; cases h
        | ok bindings =>
          rw [hr] at h
          cases h
          have := length_of_mem_readBindings hr hb
          omega

/-- Every quoted value of an outline is shorter than the text of the path. -/
theorem length_of_mem_readOutline {text : List Char} {outline : Outline}
    (h : readOutline text = .ok outline) {b : RawBinding} (hb : b ∈ outline.bindings) :
    b.value.length < text.length := by
  unfold readOutline at h
  have htrim := Text.length_trim_le text
  split at h
  · cases h
  · cases hh : readHost (Text.trim text) with
    | error e => rw [hh] at h; cases h
    | ok r =>
      obtain ⟨host, rest⟩ := r
      rw [hh] at h
      have h1 := length_readHost hh
      have h2 := length_of_mem_readAfterHost h hb
      omega

end InstanceFilter.ObjectPath
