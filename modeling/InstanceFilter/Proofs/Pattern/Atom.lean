/-
Locality of the readers of the smallest parts of a pattern: numbers, escapes and the names of
properties. One escape is read differently when the text goes on: a word boundary before an opening
brace. When nothing but blanks follows the brace the name of the boundary is missing; with a
parenthesis there, the brace is left for a repetition, which cannot be read either.
-/
import InstanceFilter.Proofs.Pattern.Locality
import Mathlib.Tactic.SplitIfs

namespace InstanceFilter.Pattern

variable (verbose : Bool)

/-! ## Numbers -/

theorem isLoop_readDigits : IsLoop verbose fun digits s => some (readDigits verbose digits s) where
  atEnd := by
    intro digits x rest h
    rw [readDigits] at h
    cases h
    exact ⟨rfl, fun more => by rw [readDigits, if_neg (by decide)]⟩
  step := by
    intro digits c
    by_cases hdigit : c.isDigit = true
    · exact .inl ⟨digits ++ [c], fun rest => by rw [readDigits, if_pos hdigit]⟩
    · exact .inr (.inr ⟨digits, by rw [readDigits], fun rest => by rw [readDigits, if_neg hdigit]⟩)

/-- The number that digits make, if it is a count. -/
def countOf? (digits : List Char) : Option Nat :=
  let n := digits.foldl (fun n d => 10 * n + (d.toNat - '0'.toNat)) 0
  if digits.isEmpty || n ≥ 0x100000000 then none else some n

theorem readCount_eq : readCount verbose =
    Reading.trim.andThen fun _ =>
      (Reading.filterMap (fun s => some (readDigits verbose [] s)) countOf?).andThen fun n =>
        Reading.trim.andThen fun _ s => some (n, skip verbose s) := by
  funext text
  unfold readCount countOf? Reading.andThen Reading.filterMap Reading.trim
  simp only [Option.bind_some]
  split <;> rfl

theorem local_readCount (text : List Char) : LocalAt Never (readCount verbose) text := by
  rw [readCount_eq]
  refine (local_trim text).andThen fun _ rest => ?_
  refine (((isLoop_readDigits verbose).localAt [] rest).filterMap countOf?).andThen fun n rest => ?_
  exact (local_trim rest).andThen fun _ rest => local_skip n rest

/-! ## Characters by code point -/

theorem hexDigit?_paren : Unicode.hexDigit? ')' = none := by decide

theorem isLoop_readHexFixed :
    IsLoop verbose fun (s : Nat × Nat) => readHexFixed verbose s.1 s.2 where
  atEnd := by
    rintro ⟨count, value⟩ x rest h
    cases count with
    | zero => cases h; exact ⟨rfl, fun more => rfl⟩
    | succ count => simp [readHexFixed] at h
  step := by
    rintro ⟨count, value⟩ c
    cases count with
    | zero => exact .inr (.inr ⟨value, rfl, fun rest => rfl⟩)
    | succ count =>
      cases hd : Unicode.hexDigit? c with
      | none =>
        exact .inr (.inl ⟨fun _ => none, fun rest => by simp [readHexFixed, hd], fun _ => .none⟩)
      | some d => exact .inl ⟨(count, 16 * value + d), fun rest => by simp [readHexFixed, hd]⟩

theorem isLoop_readHexBraced : IsLoop verbose (readHexBraced verbose) where
  atEnd := by
    intro value x rest h
    rw [readHexBraced] at h
    cases h
  step := by
    intro value c
    by_cases hbrace : c = '\x7d'
    · refine .inr (.inl ⟨fun s => value.map fun value => (value, skip verbose s), fun rest => ?_,
        fun rest => ?_⟩)
      · rw [readHexBraced, if_pos hbrace]
      · cases value with
        | none => exact .none
        | some value => exact local_skip value rest
    · cases hd : Unicode.hexDigit? c with
      | none =>
        exact .inr (.inl ⟨fun _ => none, fun rest => by rw [readHexBraced, if_neg hbrace, hd],
          fun _ => .none⟩)
      | some d =>
        exact .inl ⟨some (16 * value.getD 0 + d), fun rest => by
          rw [readHexBraced, if_neg hbrace, hd]⟩

/-- The digits of a character, in braces or as many as given. -/
def readHexDigits (verbose : Bool) (count : Nat) : Reading Literal
  | [] => none
  | '\x7b' :: rest =>
    ((Reading.blank verbose).andThen fun _ =>
      Reading.filterMap (readHexBraced verbose none) fun point =>
        (charOf? point).map fun c => ⟨c, false⟩) rest
  | text =>
    Reading.filterMap (readHexFixed verbose count 0)
      (fun point => (charOf? point).map fun c => ⟨c, count == 2⟩) text

theorem readHex_eq (count : Nat) : readHex verbose count =
    (Reading.blank verbose).andThen fun _ => readHexDigits verbose count := by
  funext text
  have hmade (f : Reading Nat) (byte : Bool) (text : List Char) :
      (f text >>= fun p => charOf? p.1 >>= fun c => pure ((⟨c, byte⟩ : Literal), p.2)) =
        f.filterMap (fun point => (charOf? point).map fun c => ⟨c, byte⟩) text := by
    unfold Reading.filterMap
    cases f text with
    | none => rfl
    | some p => cases h : charOf? p.1 <;> simp [h]
  unfold readHex
  show _ = readHexDigits verbose count (skip verbose text)
  split
  · next h => rw [h]; rfl
  · next rest h =>
    rw [h]
    exact hmade _ false _
  · next hnil hbrace =>
    rw [readHexDigits.eq_3 _ _ _ hnil hbrace]
    exact hmade _ (count == 2) _

theorem local_readHex {count : Nat} (hcount : count ≠ 0) (text : List Char) :
    LocalAt Never (readHex verbose count) text := by
  obtain ⟨count, rfl⟩ := Nat.exists_eq_succ_of_ne_zero hcount
  rw [readHex_eq]
  refine (local_blank verbose text).andThen fun _ rest => ?_
  cases rest with
  | nil =>
    refine .failed rfl fun more y rest h => ?_
    simp [readHexDigits, Reading.filterMap, readHexFixed, hexDigit?_paren] at h
  | cons c rest =>
    by_cases hbrace : c = '\x7b'
    · subst hbrace
      refine LocalAt.cons ?_ (readHexDigits.eq_2 verbose (count + 1))
      refine (local_blank verbose rest).andThen fun _ rest => ?_
      exact ((isLoop_readHexBraced verbose).localAt none rest).filterMap _
    · exact (((isLoop_readHexFixed verbose).localAt (count + 1, 0) (c :: rest)).filterMap _).congr
        fun s =>
        readHexDigits.eq_3 _ _ _ (by simp) (by simp [hbrace])

/-! ## Properties -/

theorem isLoop_readBracedName : IsLoop verbose (readBracedName verbose) where
  atEnd := by
    intro name x rest h
    rw [readBracedName] at h
    cases h
  step := by
    intro name c
    by_cases hbrace : c = '\x7d'
    · exact .inr (.inl ⟨fun s => some (name, s), fun rest => by rw [readBracedName, if_pos hbrace],
        fun rest => .pure name⟩)
    · exact .inl ⟨name ++ [c], fun rest => by rw [readBracedName, if_neg hbrace]⟩

/-- What names a property, after the blanks before it. -/
def readPropertyName (verbose : Bool) : Reading PropertyQuery
  | [] => none
  | '\x7b' :: rest =>
    ((Reading.blank verbose).andThen fun _ =>
      Reading.map (readBracedName verbose []) propertyQuery) rest
  | '\\' :: _ => none
  | c :: rest => some (.named [c], skip verbose rest)

theorem readProperty_eq : readProperty verbose =
    (Reading.blank verbose).andThen fun _ => readPropertyName verbose := by
  funext text
  unfold readProperty
  show _ = readPropertyName verbose (skip verbose text)
  unfold readPropertyName
  rfl

theorem local_readProperty (text : List Char) : LocalAt Never (readProperty verbose) text := by
  rw [readProperty_eq]
  refine (local_blank verbose text).andThen fun _ rest => ?_
  cases rest with
  | nil =>
    refine .failed rfl fun more y rest h => .inl ?_
    cases h
    exact skip_suffix verbose more
  | cons c rest =>
    by_cases hbrace : c = '\x7b'
    · subst hbrace
      refine LocalAt.cons ?_ (readPropertyName.eq_2 verbose)
      refine (local_blank verbose rest).andThen fun _ rest => ?_
      exact ((isLoop_readBracedName verbose).localAt [] rest).map _
    · by_cases hescape : c = '\\'
      · subst hescape
        exact LocalAt.cons .none fun _ => rfl
      · exact (local_skip (.named [c]) rest).cons fun s =>
          readPropertyName.eq_4 _ _ _ hbrace hescape

/-! ## Word boundaries -/

theorem isLoop_readBoundaryName :
    IsLoop verbose fun name s => some (readBoundaryName verbose name s) where
  atEnd := by
    intro name x rest h
    rw [readBoundaryName] at h
    cases h
    exact ⟨rfl, fun more => by rw [readBoundaryName, if_neg (by decide)]⟩
  step := by
    intro name c
    by_cases hletter : (c.isAlpha || c == '-') = true
    · exact .inl ⟨name ++ [c], fun rest => by rw [readBoundaryName, if_pos hletter]⟩
    · exact .inr (.inr ⟨name, by rw [readBoundaryName], fun rest => by
        rw [readBoundaryName, if_neg hletter]⟩)

/-- The boundary of a name. -/
def boundary? (name : List Char) : Option Assertion :=
  if name = "start".toList then some .wordStart
  else if name = "end".toList then some .wordEnd
  else if name = "start-half".toList then some .wordStartHalf
  else if name = "end-half".toList then some .wordEndHalf
  else none

/-- What was read, with the closing brace after it. -/
def closeBrace (x : Option Assertion) : Reading Assertion
  | '\x7d' :: rest => x.map fun x => (x, rest)
  | _ => none

/-- A boundary by its name, after the opening brace and the blanks there. -/
def readNamedBoundary (verbose : Bool) : Reading Assertion :=
  Reading.andThen (fun s => some (readBoundaryName verbose [] s)) fun name =>
    closeBrace (boundary? name)

theorem readWordBoundary_brace (rest : List Char) : readWordBoundary verbose ('\x7b' :: rest) =
    match skip verbose rest with
    | [] => none
    | c :: inner =>
      if !(c.isAlpha || c == '-') then some (.wordBoundary, '\x7b' :: rest)
      else readNamedBoundary verbose (c :: inner) := by
  cases hskip : skip verbose rest with
  | nil => simp only [readWordBoundary, hskip]
  | cons c inner =>
    simp only [readWordBoundary, hskip, readNamedBoundary, Reading.andThen, Option.bind_some]
    obtain ⟨name, after⟩ := readBoundaryName verbose [] (c :: inner)
    refine ite_congr rfl (fun _ => rfl) fun _ => ?_
    unfold closeBrace boundary?
    split
    · next name' after' h =>
      cases h
      simp only
      split_ifs <;> rfl
    · next h =>
      simp only
      split
      · next after' => exact absurd rfl (h name after')
      · rfl

theorem local_readNamedBoundary (text : List Char) :
    LocalAt Never (readNamedBoundary verbose) text := by
  refine ((isLoop_readBoundaryName verbose).localAt [] text).andThen fun name rest => ?_
  cases rest with
  | nil => exact .failed rfl fun more y rest h => nomatch h
  | cons c rest =>
    by_cases hbrace : c = '\x7d'
    · subst hbrace
      cases boundary? name with
      | none => exact LocalAt.none.cons fun _ => rfl
      | some kind => exact (LocalAt.pure kind).cons fun _ => rfl
    · exact LocalAt.none.cons fun s => closeBrace.eq_2 _ _ fun rest h => hbrace (List.cons.inj h).1

/-- A brace before the parenthesis, with nothing but blanks between them. -/
def Dangling (verbose : Bool) (more rest : List Char) : Prop :=
  ∃ blanks, skip verbose blanks = [] ∧ rest = '\x7b' :: (blanks ++ ')' :: more)

theorem local_readWordBoundary (text : List Char) :
    LocalAt (fun more kind rest => kind = .wordBoundary ∧ Dangling verbose more rest)
      (readWordBoundary verbose) text := by
  cases text with
  | nil => exact .kept .wordBoundary [] List.suffix_rfl rfl fun more => rfl
  | cons c text =>
    by_cases hbrace : c = '\x7b'
    · subst hbrace
      obtain hkept | ⟨hhere, -, hpast⟩ := skip_paren verbose text
      · cases hskip : skip verbose text with
        | nil =>
          -- Alone the brace opens a name that is missing; before the parenthesis it opens none.
          refine .failed (by rw [readWordBoundary_brace verbose, hskip])
            fun more kind rest h => .inr ?_
          rw [List.cons_append, readWordBoundary_brace verbose, hkept, hskip] at h
          cases h
          exact ⟨rfl, text, hskip, rfl⟩
        | cons c inner =>
          by_cases hletter : (!(c.isAlpha || c == '-')) = true
          · refine .kept .wordBoundary ('\x7b' :: text) List.suffix_rfl ?_ fun more => ?_
            · rw [readWordBoundary_brace verbose, hskip]
              exact if_pos hletter
            · rw [List.cons_append, readWordBoundary_brace verbose, hkept, hskip]
              exact if_pos hletter
          · have hnamed : LocalAt Never (readNamedBoundary verbose) (c :: inner) :=
              local_readNamedBoundary verbose (c :: inner)
            have hsuffix := (hskip ▸ skip_suffix verbose text).trans (List.suffix_cons '\x7b' text)
            refine hnamed.of_never.of_eq hsuffix ?_ fun more => ?_
            · rw [readWordBoundary_brace verbose, hskip]
              exact if_neg hletter
            · rw [List.cons_append, readWordBoundary_brace verbose, hkept, hskip]
              exact if_neg hletter
      · refine .failed (by rw [readWordBoundary_brace verbose, hhere]) fun more kind rest h => ?_
        rw [List.cons_append, readWordBoundary_brace verbose] at h
        split at h
        · cases h
        · next c inner hskip =>
          split at h
          · cases h
            exact .inr ⟨rfl, text, hhere, rfl⟩
          · have hinner := (local_readNamedBoundary verbose (c :: inner)).suffix h
            exact .inl (hinner.trans (hskip ▸ hpast more))
    · have hplain (s : List Char) :
          readWordBoundary verbose (c :: s) = some (.wordBoundary, c :: s) := by
        unfold readWordBoundary
        split
        · next h => exact absurd (List.cons.inj h).1 hbrace
        · rfl
      exact .stop .wordBoundary fun more => hplain (text ++ more)

/-! ## Escapes -/

/-- An escape of one character stands for itself, whatever follows. -/
theorem readEscape_single {c : Char} (hc : c ∉ ['x', 'u', 'U', 'p', 'P', 'b']) (rest : List Char) :
    readEscape verbose (c :: rest) = (readEscape verbose [c]).map fun p => (p.1, rest) := by
  simp only [List.mem_cons, not_or, List.not_mem_nil, not_false_eq_true, and_true] at hc
  obtain ⟨hx, hu, hU, hp, hP, hb⟩ := hc
  unfold readEscape
  simp only
  split
  all_goals try rfl
  all_goals try contradiction
  split <;> rfl

theorem local_readEscape (text : List Char) :
    LocalAt (fun more x rest => x = .assertion .wordBoundary ∧ Dangling verbose more rest)
      (readEscape verbose) text := by
  cases text with
  | nil =>
    refine .failed rfl fun more y rest h => .inl ?_
    rw [List.nil_append, readEscape_single verbose (by decide)] at h
    obtain ⟨p, -, heq⟩ := Option.map_eq_some_iff.1 h
    cases heq
    exact List.suffix_rfl
  | cons c rest =>
    by_cases hc : c ∈ ['x', 'u', 'U', 'p', 'P', 'b']
    · simp only [List.mem_cons, List.not_mem_nil, or_false] at hc
      obtain rfl | rfl | rfl | rfl | rfl | rfl := hc
      · exact ((local_readHex verbose (by decide) rest).map Atom.literal).cons fun _ => rfl
      · exact ((local_readHex verbose (by decide) rest).map Atom.literal).cons fun _ => rfl
      · exact ((local_readHex verbose (by decide) rest).map Atom.literal).cons fun _ => rfl
      · exact ((local_readProperty verbose rest).map (Atom.property · false)).cons fun _ => rfl
      · exact ((local_readProperty verbose rest).map (Atom.property · true)).cons fun _ => rfl
      · have hboundary := local_readWordBoundary verbose rest
        exact (hboundary.map_of fun more kind rest h => ⟨congrArg Atom.assertion h.1, h.2⟩).cons
          fun _ => rfl
    · cases hsingle : readEscape verbose [c] with
      | none =>
        exact LocalAt.none.cons fun s => by rw [readEscape_single verbose hc, hsingle]; rfl
      | some p =>
        exact (LocalAt.pure p.1).cons fun s => by rw [readEscape_single verbose hc, hsingle]; rfl

end InstanceFilter.Pattern
