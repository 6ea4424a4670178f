/-
The grammar of object paths. A writing is a path as it stands in a text, cut into its parts: a host,
a namespace with the slashes before it, a class name, and bindings of names to quoted strings or bare
tokens. Which writings are grammatical is said of the parts, without a reader. Each part of a
grammatical writing ends at the first separator of its kind, so an outline is read exactly of the
texts of the writings that it is the outline of.
-/
import InstanceFilter.Proofs.Fallible
import InstanceFilter.Proofs.ObjectPath.Reading
import Mathlib.Data.List.Forall2

namespace InstanceFilter.ObjectPath

/-! ## Writings -/

/-- A token that stands for a value: a truth value in any case of its letters, or a number in base
ten, with or without a sign, that 128 bits hold. -/
inductive Literal : List Char → KeyValue → Prop
  | truth {token : List Char} (h : token.map Char.toLower = "true".toList) :
    Literal token (.boolean true)
  | falsehood {token : List Char} (h : token.map Char.toLower = "false".toList) :
    Literal token (.boolean false)
  | number {sign digits : List Char} {n : KeyInteger}
    (hsign : sign = [] ∨ sign = ['+'] ∨ sign = ['-']) (hne : digits ≠ [])
    (hdigits : ∀ c ∈ digits, c.isDigit = true)
    (hn : n.toInt = (if sign = ['-'] then -1 else 1) * (Nat.ofDigitChars 10 digits 0 : Int)) :
    Literal (sign ++ digits) (.integer n)

/-- A value as it is written: a string between double quotes, or a token without them. -/
inductive ValueText where
  | quoted (body : List Char)
  | bare (token : List Char)

/-- A binding as it is written: its name, with what blanks are around it, and its value. -/
structure BindingText where
  label : List Char
  value : ValueText

/-- A path as it is written; a namespace with the number of slashes before it. -/
structure Writing where
  host : Option String
  space : Option (Nat × String)
  className : String
  bindings : List BindingText

def ValueText.text : ValueText → List Char
  | .quoted body => ObjectPath.quoted body
  | .bare token => token

namespace BindingText

def text (b : BindingText) : List Char := b.label ++ '=' :: b.value.text

def name (b : BindingText) : String := String.ofList (Text.trim b.label)

end BindingText

/-- The bindings with a separator before the first and commas between them. -/
def bindingsText (separator : Char) : List BindingText → List Char
  | [] => []
  | b :: rest => separator :: (b.text ++ bindingsText ',' rest)

def slashedText : Option (Nat × String) → List Char
  | some (slashes, space) => List.replicate slashes '/' ++ space.toList ++ [':']
  | none => []

/-- The namespace without the slashes; an empty one is none. -/
def unslashed : Option (Nat × String) → Option String
  | some (_, space) => if space = "" then none else some space
  | none => none

namespace Writing

/-- What follows the namespace. -/
def classText (w : Writing) : List Char := w.className.toList ++ bindingsText '.' w.bindings

/-- What follows the host. -/
def tail (w : Writing) : List Char := slashedText w.space ++ w.classText

def text (w : Writing) : List Char := hostText w.host ++ w.tail

def space? (w : Writing) : Option String := unslashed w.space

end Writing

/-! ### What is grammatical -/

def ValueText.Grammatical : ValueText → Prop
  | .quoted _ => True
  | .bare token => ',' ∉ token ∧ ∃ value, Literal (Text.trim token) value

structure BindingText.Grammatical (b : BindingText) : Prop where
  name_identifier : Text.isIdentifier (Text.trim b.label) = true
  value_grammatical : b.value.Grammatical

/-- The parts between the host and the bindings: a host needs a namespace, and a namespace keeps
clear of the slashes before it, of the colon after it and of points. -/
structure Writing.Placed (w : Writing) : Prop where
  host_located : w.host ≠ none → w.space? ≠ none
  space_unrooted : ∀ n space, w.space = some (n, space) → space.toList.head? ≠ some '/'
  space_colonless : ∀ n space, w.space = some (n, space) → ':' ∉ space.toList
  space_pointless : ∀ n space, w.space = some (n, space) → '.' ∉ space.toList
  className_identifier : Text.isIdentifier w.className.toList = true

/-- The parts before the bindings: there is a host exactly when the text starts with two slashes. -/
structure Writing.Headed (w : Writing) : Prop extends w.Placed where
  hosted : w.host ≠ none ↔ ['/', '/'] <+: w.text
  host_slashless : ∀ host, w.host = some host → '/' ∉ host.toList

structure Writing.Grammatical (w : Writing) : Prop extends w.Headed where
  bindings_grammatical : ∀ b ∈ w.bindings, b.Grammatical
  names_distinct : w.bindings.Pairwise fun a b => Text.sameName a.name b.name = false

/-! ## Values -/

theorem signedNumber?_append {sign digits : List Char}
    (hsign : sign = [] ∨ sign = ['+'] ∨ sign = ['-']) (hne : digits ≠ [])
    (hdigits : ∀ c ∈ digits, c.isDigit = true) : signedNumber? (sign ++ digits) =
      some ((if sign = ['-'] then -1 else 1) * (Nat.ofDigitChars 10 digits 0 : Int)) := by
  rcases hsign with rfl | rfl | rfl
  · simpa using signedNumber?_digits hne hdigits
  · simpa using signedNumber?_plus hne hdigits
  · simpa using signedNumber?_minus hne hdigits

/-- A token without quotes is read as the value it is a literal of. -/
theorem bareValue_eq_ok_iff {key : String} {token : List Char} {value : KeyValue} :
    bareValue key token = .ok value ↔ Literal token value := by
  constructor
  · intro h
    unfold bareValue at h
    simp only at h
    split at h
    · next htrue =>
      cases h
      exact .truth htrue
    split at h
    · next hfalse =>
      cases h
      exact .falsehood hfalse
    split at h
    · next n hn =>
      cases h
      obtain ⟨m, hm, hmn⟩ := Option.bind_eq_some_iff.1 hn
      obtain ⟨sign, digits, rfl, hsign, hne, hdigits⟩ := exists_digits_of_signedNumber? hm
      have hvalue := (signedNumber?_append hsign hne hdigits).symm.trans hm
      exact .number hsign hne hdigits
        ((KeyInteger.ofInt?_eq_some_iff.1 hmn).trans (Option.some.inj hvalue).symm)
    · cases h
  · intro h
    cases h with
    | truth h => exact if_pos h
    | falsehood h =>
      have htrue : token.map Char.toLower ≠ "true".toList := by rw [h]; decide
      exact (if_neg htrue).trans (if_pos h)
    | number hsign hne hdigits hn =>
      refine bareValue_of_signedNumber? key ?_
      rw [signedNumber?_append hsign hne hdigits, hn]

/-- Literals are made of letters, digits and signs. -/
theorem Literal.quote_notMem {token : List Char} {value : KeyValue} (h : Literal token value) :
    '"' ∉ token := by
  intro hquote
  have hlower : '"' ∈ token.map Char.toLower := List.mem_map.2 ⟨'"', hquote, by decide⟩
  cases h with
  | truth h => exact absurd (h ▸ hlower) (by decide)
  | falsehood h => exact absurd (h ▸ hlower) (by decide)
  | number hsign hne hdigits hn =>
    rcases List.mem_append.1 hquote with hm | hm
    · rcases hsign with rfl | rfl | rfl <;> exact absurd hm (by decide)
    · exact absurd (hdigits _ hm) (by decide)

/-- What a value is in the outline, up to how a quoted string reads as a path. -/
inductive ValueText.Yields : ValueText → RawValue → Prop
  | quoted (body : List Char) : Yields (.quoted body) (.quoted body)
  | bare {token : List Char} {value : KeyValue} (hcomma : ',' ∉ token)
    (hvalue : Literal (Text.trim token) value) : Yields (.bare token) (.plain value)

theorem ValueText.grammatical_iff {v : ValueText} : v.Grammatical ↔ ∃ raw, v.Yields raw := by
  cases v with
  | quoted body => exact iff_of_true trivial ⟨_, .quoted body⟩
  | bare token =>
    constructor
    · rintro ⟨hcomma, value, hvalue⟩
      exact ⟨_, .bare hcomma hvalue⟩
    · rintro ⟨raw, ⟨⟩⟩
      next value hcomma hvalue => exact ⟨hcomma, value, hvalue⟩

theorem quote_notMem_of_bare {token : List Char} (h : (ValueText.bare token).Grammatical) :
    '"' ∉ token := by
  obtain ⟨-, value, hvalue⟩ := h
  intro hquote
  rcases Text.isBlank_or_mem_trim hquote with hblank | hmem
  · rw [Text.isBlank_eq_false (by decide)] at hblank
    cases hblank
  · exact hvalue.quote_notMem hmem

theorem yields_of_readValue {key : String} {text rest : List Char} {raw : RawValue}
    (h : readValue key text = .ok (raw, rest)) :
    ∃ v : ValueText, v.Yields raw ∧ text = v.text ++ rest := by
  unfold readValue at h
  split at h
  · next after =>
    obtain ⟨⟨body, rest'⟩, hbody, heq⟩ := map_eq_ok_iff.1 h
    cases heq
    refine ⟨.quoted body, .quoted body, ?_⟩
    simp [ValueText.text, quoted, eq_escaped_of_readQuoted hbody]
  · simp only at h
    obtain ⟨value, hvalue, heq⟩ := map_eq_ok_iff.1 h
    cases heq
    refine ⟨.bare (text.takeWhile (· != ',')), .bare ?_ (bareValue_eq_ok_iff.1 hvalue),
      List.takeWhile_append_dropWhile.symm⟩
    intro hcomma
    exact absurd (List.all_eq_true.1 List.all_takeWhile _ hcomma) (by decide)

theorem readValue_of_yields (key : String) {v : ValueText} {raw : RawValue} (h : v.Yields raw)
    {rest : List Char} (hrest : Continues rest) :
    readValue key (v.text ++ rest) = .ok (raw, rest) := by
  cases h with
  | quoted body => exact readValue_quoted key body rest
  | @bare token value hcomma hvalue =>
    exact readValue_bare (quote_notMem_of_bare ⟨hcomma, value, hvalue⟩) hcomma
      (bareValue_eq_ok_iff.2 hvalue) hrest

/-! ## Bindings -/

namespace BindingText

/-- What a binding is in the outline. -/
structure Yields (b : BindingText) (raw : RawBinding) : Prop where
  name_identifier : Text.isIdentifier (Text.trim b.label) = true
  name_eq : raw.name = b.name
  value_yields : b.value.Yields raw.value

theorem grammatical_iff {b : BindingText} : b.Grammatical ↔ ∃ raw, b.Yields raw := by
  constructor
  · rintro ⟨hname, hvalue⟩
    obtain ⟨raw, hraw⟩ := ValueText.grammatical_iff.1 hvalue
    exact ⟨⟨b.name, raw⟩, hname, rfl, hraw⟩
  · rintro ⟨raw, hname, -, hvalue⟩
    exact ⟨hname, ValueText.grammatical_iff.2 ⟨raw.value, hvalue⟩⟩

end BindingText

theorem equals_notMem_label {label : List Char} (h : Text.isIdentifier (Text.trim label) = true) :
    '=' ∉ label := by
  intro hmem
  rcases Text.isBlank_or_mem_trim hmem with hblank | hmem
  · rw [Text.isBlank_eq_false (by decide)] at hblank
    cases hblank
  · exact Text.not_mem_of_isIdentifier h (by decide) hmem

theorem yields_of_readBinding {text rest : List Char} {raw : RawBinding}
    (h : readBinding text = .ok (raw, rest)) :
    ∃ b : BindingText, b.Yields raw ∧ text = b.text ++ rest := by
  unfold readBinding at h
  split at h
  · cases h
  · next label after hsplit =>
    simp only at h
    split at h
    · cases h
    · next hname =>
      obtain ⟨⟨value, rest'⟩, hvalue, heq⟩ := map_eq_ok_iff.1 h
      cases heq
      obtain ⟨v, hv, rfl⟩ := yields_of_readValue hvalue
      refine ⟨⟨label, v⟩, ⟨not_not.1 hname, rfl, hv⟩, ?_⟩
      rw [(eq_of_splitFirst? hsplit).1, BindingText.text, List.append_assoc, List.cons_append]

theorem readBinding_of_yields {b : BindingText} {raw : RawBinding} (h : b.Yields raw)
    {rest : List Char} (hrest : Continues rest) : readBinding (b.text ++ rest) = .ok (raw, rest) := by
  obtain ⟨name, value⟩ := raw
  obtain ⟨hname, rfl, hvalue⟩ := h
  have hsplit := splitFirst?_at (equals_notMem_label hname) (b.value.text ++ rest)
  rw [BindingText.text, List.append_assoc, List.cons_append]
  simp only [readBinding, hsplit, hname, readValue_of_yields _ hvalue hrest]
  rfl

theorem continues_bindingsText (bindings : List BindingText) :
    Continues (bindingsText ',' bindings) := by
  intro c hc
  cases bindings with
  | nil => cases hc
  | cons b rest =>
    cases hc
    rfl

/-- The bindings of a text are read one after the other, each up to the comma behind it. -/
theorem readBindings_eq_ok_iff {text : List Char} {raws : List RawBinding} :
    readBindings text = .ok raws ↔ ∃ b rest, text = b.text ++ bindingsText ',' rest ∧
      List.Forall₂ BindingText.Yields (b :: rest) raws := by
  constructor
  · intro h
    fun_induction readBindings text generalizing raws with
    | case1 => cases h
    | case2 text raw hread =>
      cases h
      obtain ⟨b, hb, rfl⟩ := yields_of_readBinding hread
      exact ⟨b, [], rfl, .cons hb .nil⟩
    | case3 text raw after hread _ ih =>
      obtain ⟨raws, hraws, rfl⟩ := map_eq_ok_iff.1 h
      obtain ⟨b, hb, rfl⟩ := yields_of_readBinding hread
      obtain ⟨c, rest, rfl, hrest⟩ := ih hraws
      exact ⟨b, c :: rest, rfl, .cons hb hrest⟩
    | case4 => cases h
  · rintro ⟨b, rest, rfl, hyields⟩
    -- the reader is called again behind each comma, so the first binding changes along the way
    induction rest generalizing b raws with
    | nil =>
      obtain ⟨raw, raws, hb, hnil, rfl⟩ := List.forall₂_cons_left_iff.1 hyields
      cases hnil
      exact readBindings_last (readBinding_of_yields hb (continues_bindingsText []))
    | cons c rest ih =>
      obtain ⟨raw, raws, hb, hrest, rfl⟩ := List.forall₂_cons_left_iff.1 hyields
      have hread := readBinding_of_yields hb (continues_bindingsText (c :: rest))
      rw [bindingsText] at hread ⊢
      rw [readBindings_comma hread, ih c hrest]
      rfl

/-! ## The parts before the bindings -/

/-- The bindings as they follow the class name, behind a point or missing. -/
def bindingsText? : List BindingText → Option (List Char)
  | [] => none
  | b :: rest => some (b.text ++ bindingsText ',' rest)

theorem namespace?_slashes (n : Nat) (text : List Char) : namespace?
    (String.ofList (List.replicate n '/' ++ text)) = namespace? (String.ofList text) := by
  have hdrop : (List.replicate n '/' ++ text).dropWhile (· == '/') = text.dropWhile (· == '/') :=
    List.dropWhile_append_of_pos (by simp)
  simp only [namespace?, String.toList_ofList, hdrop]

theorem namespace?_eq {space : String} (h : space.toList.head? ≠ some '/') : namespace? space =
    if space = "" then none else some space := by
  by_cases hempty : space = ""
  · rw [if_pos hempty, hempty]
    rfl
  · rw [if_neg hempty, namespace?_of_unrooted (mt String.toList_eq_nil_iff.1 hempty) h]

theorem exists_slashes (text : List Char) :
    ∃ n rest, text = List.replicate n '/' ++ rest ∧ rest.head? ≠ some '/' := by
  induction text with
  | nil => exact ⟨0, [], rfl, nofun⟩
  | cons c text ih =>
    by_cases hc : c = '/'
    · obtain ⟨n, rest, rfl, hrest⟩ := ih
      exact ⟨n + 1, rest, by rw [hc, List.replicate_succ, List.cons_append], hrest⟩
    · exact ⟨0, c :: text, rfl, fun h => hc (Option.some.inj h)⟩

namespace Writing

variable {w : Writing}

theorem readClass_classText (h : Text.isIdentifier w.className.toList = true) :
    readClass w.classText = (w.className.toList, bindingsText? w.bindings) := by
  have hpoint : '.' ∉ w.className.toList := Text.not_mem_of_isIdentifier h (by decide)
  unfold readClass classText
  cases w.bindings with
  | nil => rw [bindingsText, List.append_nil, splitFirst?_of_not_mem hpoint]; rfl
  | cons b rest => rw [bindingsText, splitFirst?_at hpoint]; rfl

theorem readNamespace_classText (h : Text.isIdentifier w.className.toList = true) :
    readNamespace w.classText = (none, w.classText) := by
  have hcolon : ':' ∉ w.className.toList := Text.not_mem_of_isIdentifier h (by decide)
  unfold classText
  cases w.bindings with
  | nil => rw [bindingsText, List.append_nil, readNamespace_of_not_mem hcolon]
  | cons b rest => rw [bindingsText, readNamespace_of_point hcolon]

theorem readNamespace_tail (h : w.Placed) : readNamespace w.tail = (w.space?, w.classText) := by
  obtain ⟨host, space, className, bindings⟩ := w
  cases space with
  | none => exact readNamespace_classText h.className_identifier
  | some slashed =>
    obtain ⟨n, space⟩ := slashed
    have hslashes (c : Char) (hc : c ≠ '/') (h : c ∉ space.toList) :
        c ∉ List.replicate n '/' ++ space.toList := by
      simp [List.mem_replicate, hc, h]
    have hread := readNamespace_at (hslashes ':' (by decide) (h.space_colonless n space rfl))
      (hslashes '.' (by decide) (h.space_pointless n space rfl))
      (classText ⟨host, some (n, space), className, bindings⟩)
    have hspace := namespace?_eq (h.space_unrooted n space rfl)
    rw [namespace?_slashes, String.ofList_toList, hspace] at hread
    rw [tail, slashedText, List.append_assoc]
    exact hread

theorem readHost_text (h : w.Headed) : readHost w.text = .ok (w.host, w.tail) := by
  unfold text
  cases hh : w.host with
  | some host => exact readHost_hostText (h.host_slashless host hh) w.tail
  | none =>
    -- a text without a host must not look like one that has a host
    have hrooted : ¬ ['/', '/'] <+: w.tail := fun hp =>
      h.hosted.2 (by rwa [text, hh]) hh
    unfold readHost
    split
    · next rest heq => exact absurd ⟨rest, heq.symm⟩ hrooted
    · rfl

/-- What a writing is in the outline. -/
structure Yields (w : Writing) (o : Outline) : Prop where
  host_eq : o.host = w.host
  space_eq : o.space = w.space?
  className_eq : o.className = w.className
  bindings_yield : List.Forall₂ BindingText.Yields w.bindings o.bindings

theorem readAfterHost_tail (h : w.Placed) {o : Outline} (ho : w.Yields o) :
    readAfterHost w.host w.tail = .ok o := by
  obtain ⟨host, space, className, raws⟩ := o
  obtain ⟨rfl, rfl, rfl, hraws⟩ := ho
  have hlocated : ¬ (w.host.isSome && w.space?.isNone) = true := by
    simpa [Option.isSome_iff_ne_none] using h.host_located
  simp only [readAfterHost, readNamespace_tail h, if_neg hlocated,
    readClass_classText h.className_identifier, h.className_identifier, not_true_eq_false,
    if_false, String.ofList_toList]
  cases hbindings : w.bindings with
  | nil =>
    rw [hbindings] at hraws
    obtain rfl : raws = [] := List.forall₂_nil_left_iff.1 hraws
    rfl
  | cons b rest =>
    rw [hbindings] at hraws
    have hread : readBindings (b.text ++ bindingsText ',' rest) = .ok raws :=
      readBindings_eq_ok_iff.2 ⟨b, rest, rfl, hraws⟩
    obtain ⟨c, text, htext⟩ := List.exists_cons_of_ne_nil
      (show b.text ++ bindingsText ',' rest ≠ [] by simp [BindingText.text])
    rw [htext] at hread
    simp only [bindingsText?, htext, hread]
    rfl

theorem exists_slashed (text : List Char) :
    ∃ slashed, text = slashedText slashed ++ (readNamespace text).2 ∧
      unslashed slashed = (readNamespace text).1 ∧ ∀ n space, slashed = some (n, space) →
        space.toList.head? ≠ some '/' ∧ ':' ∉ space.toList ∧ '.' ∉ space.toList := by
  unfold readNamespace
  split
  · next before after hsplit =>
    split
    · exact ⟨none, rfl, rfl, nofun⟩
    · next hpoint =>
      obtain ⟨rfl, hcolon⟩ := eq_of_splitFirst? hsplit
      obtain ⟨n, space, rfl, hspace⟩ := exists_slashes before
      rw [← String.toList_ofList (l := space)] at hspace
      refine ⟨some (n, String.ofList space), ?_, ?_, ?_⟩
      · simp [slashedText]
      · rw [namespace?_slashes, namespace?_eq hspace]
        rfl
      · rintro _ _ ⟨⟩
        rw [String.toList_ofList] at *
        refine ⟨hspace, fun h => hcolon (List.mem_append_right _ h), fun h => hpoint ?_⟩
        simp [h]
  · exact ⟨none, rfl, rfl, nofun⟩

theorem eq_of_readClass_none {text : List Char} (h : (readClass text).2 = none) :
    (readClass text).1 = text := by
  unfold readClass at h ⊢
  split at h
  · cases h
  · rfl

theorem eq_of_readClass_some {text keyText : List Char} (h : (readClass text).2 = some keyText) :
    (readClass text).1 ++ '.' :: keyText = text := by
  unfold readClass at h ⊢
  split at h
  · next hsplit =>
    cases h
    exact (eq_of_splitFirst? hsplit).1.symm
  · cases h

/-- What is read behind a host is written behind it. -/
theorem exists_of_readAfterHost {host : Option String} {text : List Char} {o : Outline}
    (h : readAfterHost host text = .ok o) :
    ∃ w : Writing, w.host = host ∧ w.tail = text ∧ w.Placed ∧ w.Yields o := by
  obtain ⟨slashed, htext, hspace, hslashed⟩ := exists_slashed text
  unfold readAfterHost at h
  simp only at h
  split at h
  · cases h
  next hlocated =>
  split at h
  · cases h
  next hclass =>
  -- the parts before the bindings are in place whatever bindings follow
  have hplaced (bindings : List BindingText) : Writing.Placed
      ⟨host, slashed, String.ofList (readClass (readNamespace text).2).1, bindings⟩ := {
    host_located := by
      rw [space?, hspace]
      simpa [Option.isSome_iff_ne_none] using hlocated
    space_unrooted := fun n space hs => (hslashed n space hs).1
    space_colonless := fun n space hs => (hslashed n space hs).2.1
    space_pointless := fun n space hs => (hslashed n space hs).2.2
    className_identifier := by
      rw [String.toList_ofList]
      exact not_not.1 hclass }
  split at h
  · next hkeys =>
    cases h
    refine ⟨_, rfl, ?_, hplaced [], rfl, hspace.symm, rfl, .nil⟩
    rw [tail, classText, bindingsText, List.append_nil, String.toList_ofList,
      eq_of_readClass_none hkeys]
    exact htext.symm
  · cases h
  · next keyText _ hkeys =>
    obtain ⟨raws, hraws, ho⟩ := map_eq_ok_iff.1 h
    cases ho
    obtain ⟨b, rest, rfl, hyields⟩ := readBindings_eq_ok_iff.1 hraws
    refine ⟨_, rfl, ?_, hplaced (b :: rest), rfl, hspace.symm, rfl, hyields⟩
    rw [tail, classText, bindingsText, String.toList_ofList, eq_of_readClass_some hkeys]
    exact htext.symm

/-! ## Outlines -/

theorem headed_of_readHost {text : List Char} (hw : w.Placed)
    (h : readHost text = .ok (w.host, w.tail)) : w.text = text ∧ w.Headed := by
  unfold readHost at h
  split at h
  · next rest =>
    split at h
    · next before after hsplit =>
      obtain ⟨hhost, htail⟩ := Prod.mk.inj (Except.ok.inj h)
      have htext : w.text = '/' :: '/' :: rest := by
        rw [text, ← hhost, ← htail, (eq_of_splitFirst? hsplit).1]
        simp [hostText]
      refine ⟨htext, hw, iff_of_true (by simp [← hhost]) ⟨rest, htext.symm⟩, fun host hh => ?_⟩
      cases hhost.trans hh
      rw [String.toList_ofList]
      exact (eq_of_splitFirst? hsplit).2
    · cases h
  · next hunrooted =>
    obtain ⟨hhost, htail⟩ := Prod.mk.inj (Except.ok.inj h)
    have htext : w.text = text := by
      rw [Writing.text, ← hhost, ← htail]
      rfl
    refine ⟨htext, hw, iff_of_false (fun hne => hne hhost.symm) ?_, fun host hh => ?_⟩
    · rintro ⟨rest, hrest⟩
      exact hunrooted rest (htext.symm.trans hrest.symm)
    · cases hhost.trans hh

theorem text_ne_nil (h : w.Placed) : w.text ≠ [] := by
  have hclass : w.className.toList ≠ [] := (Text.isIdentifier_iff.1 h.className_identifier).1
  simp [text, tail, classText, hclass]

/-- An outline is read exactly of the writings that it is the outline of. -/
theorem readOutline_eq_ok_iff {text : List Char} {o : Outline} :
    readOutline text = .ok o ↔
      ∃ w : Writing, w.Headed ∧ w.text = Text.trim text ∧ w.Yields o := by
  constructor
  · intro h
    unfold readOutline at h
    split at h
    · cases h
    · obtain ⟨⟨host, rest⟩, hhost, hafter⟩ := bind_eq_ok_iff.1 h
      obtain ⟨w, rfl, rfl, hplaced, hyields⟩ := exists_of_readAfterHost hafter
      obtain ⟨htext, hheaded⟩ := headed_of_readHost hplaced hhost
      exact ⟨w, hheaded, htext, hyields⟩
  · rintro ⟨w, hheaded, htext, hyields⟩
    unfold readOutline
    split
    · next hempty => exact absurd (htext.trans hempty) (text_ne_nil hheaded.toPlaced)
    · rw [← htext, readHost_text hheaded]
      exact readAfterHost_tail hheaded.toPlaced hyields

end Writing

end InstanceFilter.ObjectPath
