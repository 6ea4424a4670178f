/-
Locality of the reader of patterns, step by step: each step reads its part of the text as every
reader does, the groups and alternatives that are open being given.
-/
import InstanceFilter.Pattern.Reader
import InstanceFilter.Proofs.Pattern.Bracket

namespace InstanceFilter.Pattern.Reader

/-! ## Flags and names of groups -/

/-- Flags with the character that ends them. -/
def readFlagItems (items : List FlagItem) : Reading (List FlagItem × Char) :=
  fun text => (readFlags items text).map fun p => ((p.1, p.2.1), p.2.2)

theorem readFlagItems_cons (items : List FlagItem) (c : Char) (text : List Char) :
    readFlagItems items (c :: text) =
      if c = ':' ∨ c = ')' then
        if items.getLast? = some .negation then none else some ((items, c), text)
      else (if c = '-' then some FlagItem.negation else (flag? c).map .flag).bind fun item =>
        if items.contains item then none else readFlagItems (items ++ [item]) text := by
  unfold readFlagItems
  rw [readFlags]
  split
  · split <;> rfl
  · by_cases hminus : c = '-'
    · simp only [if_pos hminus, Option.bind_eq_bind, Option.bind_some]
      split <;> rfl
    · simp only [if_neg hminus]
      cases flag? c with
      | none => rfl
      | some f =>
        simp only [Option.map_some, Option.bind_eq_bind, Option.bind_some]
        split <;> rfl

theorem isLoop_readFlagItems : IsLoop false readFlagItems where
  atEnd := by
    intro items x rest h
    cases h
  step := by
    intro items c
    by_cases hend : c = ':' ∨ c = ')'
    · by_cases hlast : items.getLast? = some .negation
      · exact .inr (.inl ⟨fun _ => none, fun rest => by
          rw [readFlagItems_cons, if_pos hend, if_pos hlast], fun _ => .none⟩)
      · exact .inr (.inl ⟨fun s => some ((items, c), s), fun rest => by
          rw [readFlagItems_cons, if_pos hend, if_neg hlast], fun _ => .pure (items, c)⟩)
    · cases hitem : (if c = '-' then some FlagItem.negation else (flag? c).map .flag) with
      | none =>
        exact .inr (.inl ⟨fun _ => none, fun rest => by
          rw [readFlagItems_cons, if_neg hend, hitem, Option.bind_none], fun _ => .none⟩)
      | some item =>
        by_cases htwice : items.contains item = true
        · exact .inr (.inl ⟨fun _ => none, fun rest => by
            rw [readFlagItems_cons, if_neg hend, hitem, Option.bind_some, if_pos htwice],
            fun _ => .none⟩)
        · exact .inl ⟨items ++ [item], fun rest => by
            rw [readFlagItems_cons, if_neg hend, hitem, Option.bind_some, if_neg htwice]
            rfl⟩

theorem isNameChar_paren (first : Bool) : isNameChar first ')' = false := by
  cases first <;> decide +kernel

/-- The name of a group, if it is one. -/
def groupName? : List Char → Option (List Char)
  | first :: others =>
    if isNameChar true first && others.all (isNameChar false) then some (first :: others) else none
  | [] => none

theorem groupName?_paren (before after : List Char) :
    groupName? (before ++ ')' :: after) = none := by
  cases before <;> simp [groupName?, isNameChar_paren]

theorem readGroupName_eq (text : List Char) : readGroupName text =
    match text.dropWhile (· != '>') with
    | _ :: rest => (groupName? (text.takeWhile (· != '>'))).map fun name => (name, rest)
    | [] => none := by
  unfold readGroupName groupName?
  cases text.dropWhile (· != '>') with
  | nil => cases text.takeWhile (· != '>') <;> rfl
  | cons c rest =>
    cases text.takeWhile (· != '>') with
    | nil => rfl
    | cons first others =>
      simp only
      split <;> rfl

theorem local_readGroupName (text : List Char) : LocalAt Never readGroupName text := by
  cases hdrop : text.dropWhile (· != '>') with
  | nil =>
    refine .failed (by rw [readGroupName_eq, hdrop]) fun more y rest h => ?_
    obtain ⟨-, htake⟩ | ⟨c, rest, hdrop', -⟩ := takeWhile_paren (p := (· != '>')) rfl text more
    · rw [readGroupName_eq, htake, groupName?_paren] at h
      split at h <;> cases h
    · cases hdrop.symm.trans hdrop'
  | cons c rest =>
    have hsuffix : rest <:+ text :=
      (List.suffix_cons c rest).trans (hdrop ▸ List.dropWhile_suffix _)
    have hthere (more : List Char) : readGroupName (text ++ ')' :: more) =
        (groupName? (text.takeWhile (· != '>'))).map fun name => (name, rest ++ ')' :: more) := by
      obtain ⟨hdrop', -⟩ | ⟨c', rest', hdrop', htake, hthere⟩ :=
        takeWhile_paren (p := (· != '>')) rfl text more
      · cases hdrop.symm.trans hdrop'
      · cases hdrop.symm.trans hdrop'
        rw [readGroupName_eq, htake, hthere]
    have hhere : readGroupName text =
        (groupName? (text.takeWhile (· != '>'))).map fun name => (name, rest) := by
      rw [readGroupName_eq, hdrop]
    cases hname : groupName? (text.takeWhile (· != '>')) with
    | none =>
      rw [hname] at hhere
      refine .failed hhere fun more y rest' h => ?_
      rw [hthere, hname] at h
      cases h
    | some name =>
      rw [hname] at hhere
      exact .kept name rest hsuffix hhere fun more => by rw [hthere, hname]; rfl

/-! ## Groups -/

variable (state : State)

/-- A state without the text that is left to read, and that text. -/
def State.split (state : State) : State × List Char := ({ state with rest := [] }, state.rest)

/-- A named group, after the opening angle bracket. -/
def readNamedGroup : Reading State :=
  Reading.filterMap readGroupName fun name =>
    if state.names.contains name then none
    else some (openGroup { state with names := name :: state.names } true [] [])

/-- Flags of a group, or flags for what follows, after the question mark. -/
def readFlagGroup : Reading State :=
  Reading.filterMap (readFlagItems []) fun p =>
    if p.2 = ':' then some (openGroup state false p.1 [])
    else if p.1.isEmpty then none
    else some { state with
      rest := []
      verbose := (flagState? .verbose p.1).getD state.verbose
      parts := state.parts ++ [.flags p.1] }

/-- What opens a group, after its parenthesis and the blanks there. -/
def readOpening : Reading State
  | '?' :: '=' :: _ | '?' :: '!' :: _ | '?' :: '<' :: '=' :: _ | '?' :: '<' :: '!' :: _ => none
  | '?' :: 'P' :: '<' :: rest | '?' :: '<' :: rest => readNamedGroup state rest
  | '?' :: rest => readFlagGroup state rest
  | rest => some (openGroup state true [] [], rest)

theorem openNamedGroup_eq (text : List Char) :
    (openNamedGroup state text).map State.split = readNamedGroup state text := by
  unfold openNamedGroup readNamedGroup Reading.filterMap
  cases readGroupName text with
  | none => rfl
  | some p =>
    simp only [Option.bind_eq_bind, Option.bind_some]
    split <;> rfl

theorem readGroup_eq (text : List Char) : (readGroup state text).map State.split =
    ((Reading.blank state.verbose).andThen fun _ => readOpening state) text := by
  show _ = readOpening state (skip state.verbose text)
  unfold readGroup
  generalize skip state.verbose text = inner
  split
  · rfl
  · rfl
  · rfl
  · rfl
  · exact openNamedGroup_eq state _
  · next rest heq hne =>
    rw [readOpening.eq_6 _ _ heq hne]
    exact openNamedGroup_eq state rest
  · next rest heq hne hbefore hnotBefore hnamed hname =>
    rw [readOpening.eq_7 _ _ heq hne hbefore hnotBefore hnamed hname]
    unfold readFlagGroup Reading.filterMap readFlagItems
    cases readFlags [] rest with
    | none => rfl
    | some p =>
      simp only [Option.bind_eq_bind, Option.bind_some, Option.map_some]
      split
      · rfl
      · split <;> rfl
  · next heq hne hbefore hnotBefore hnamed hname hflags =>
    rw [readOpening.eq_8 _ _ heq hne hbefore hnotBefore hnamed hname hflags]
    rfl

theorem local_readNamedGroup (text : List Char) : LocalAt Never (readNamedGroup state) text :=
  (local_readGroupName text).filterMap _

theorem local_readFlagGroup (text : List Char) : LocalAt Never (readFlagGroup state) text :=
  (isLoop_readFlagItems.localAt [] text).filterMap _

theorem readFlagGroup_paren (text : List Char) : readFlagGroup state (')' :: text) = none := by
  rw [readFlagGroup, Reading.filterMap, readFlagItems_cons, if_pos (.inr rfl), if_neg (by decide)]
  rfl

theorem readFlagGroup_letterP (text : List Char) : readFlagGroup state ('P' :: text) = none := by
  rw [readFlagGroup, Reading.filterMap, readFlagItems_cons, if_neg (by decide)]
  rfl

/-- After a question mark and an angle bracket: a look behind, or a name. -/
theorem local_readOpening_angle (text : List Char) :
    LocalAt Never (fun s => readOpening state ('?' :: '<' :: s)) text := by
  cases text with
  | nil =>
    exact (local_readNamedGroup state []).of_eq List.nil_suffix rfl fun more =>
      readOpening.eq_6 state _ nofun nofun
  | cons c text =>
    by_cases hbehind : c = '='
    · subst hbehind
      exact LocalAt.none.cons fun _ => rfl
    by_cases hnot : c = '!'
    · subst hnot
      exact LocalAt.none.cons fun _ => rfl
    exact (local_readNamedGroup state (c :: text)).congr fun s =>
      readOpening.eq_6 state _ (by simp [hbehind]) (by simp [hnot])

/-- After a question mark and a capital P: a name in angle brackets. -/
theorem local_readOpening_letterP (text : List Char) :
    LocalAt Never (fun s => readOpening state ('?' :: 'P' :: s)) text := by
  have hnone {s : List Char} (h : ∀ rest, s ≠ '<' :: rest) :
      readOpening state ('?' :: 'P' :: s) = none := by
    rw [readOpening.eq_7 state ('P' :: s) nofun nofun nofun nofun
      (fun rest heq => h rest (List.cons.inj heq).2) nofun]
    exact readFlagGroup_letterP state s
  cases text with
  | nil =>
    refine .failed (hnone nofun) fun more y rest h => ?_
    cases (hnone (s := ')' :: more) nofun).symm.trans h
  | cons c text =>
    by_cases hangle : c = '<'
    · subst hangle
      exact (local_readNamedGroup state text).cons fun _ => rfl
    · exact LocalAt.none.cons fun s => hnone (by simp [hangle])

theorem local_readOpening_mark (text : List Char) :
    LocalAt Never (fun s => readOpening state ('?' :: s)) text := by
  cases text with
  | nil =>
    refine .failed rfl fun more y rest h => ?_
    have hflags : readOpening state ('?' :: ')' :: more) = readFlagGroup state (')' :: more) :=
      readOpening.eq_7 state _ nofun nofun nofun nofun nofun nofun
    cases (readFlagGroup_paren state more).symm.trans (hflags.symm.trans h)
  | cons c text =>
    by_cases hahead : c = '='
    · subst hahead
      exact LocalAt.none.cons fun _ => rfl
    by_cases hnot : c = '!'
    · subst hnot
      exact LocalAt.none.cons fun _ => rfl
    by_cases hangle : c = '<'
    · subst hangle
      exact (local_readOpening_angle state text).cons fun _ => rfl
    by_cases hletter : c = 'P'
    · subst hletter
      exact (local_readOpening_letterP state text).cons fun _ => rfl
    exact (local_readFlagGroup state (c :: text)).congr fun s =>
      readOpening.eq_7 state _ (by simp [hahead]) (by simp [hnot]) (by simp [hangle])
        (by simp [hangle]) (by simp [hletter]) (by simp [hangle])

theorem local_readOpening (text : List Char) : LocalAt Never (readOpening state) text := by
  cases text with
  | nil => exact .kept _ [] List.suffix_rfl rfl fun more => rfl
  | cons c text =>
    by_cases hmark : c = '?'
    · subst hmark
      exact (local_readOpening_mark state text).cons fun _ => rfl
    · exact .stop _ fun more => readOpening.eq_8 state _ (by simp [hmark]) (by simp [hmark])
        (by simp [hmark]) (by simp [hmark]) (by simp [hmark]) (by simp [hmark]) (by simp [hmark])

/-! ## Repetitions -/

/-- A question mark that makes a repetition lazy. -/
def lazyMark (text : List Char) : Bool × List Char :=
  match text with
  | '?' :: rest => (true, rest)
  | rest => (false, rest)

theorem local_lazyMark (text : List Char) : LocalAt Never (fun s => some (lazyMark s)) text := by
  cases text with
  | nil => exact .kept false [] List.suffix_rfl rfl fun more => rfl
  | cons c rest =>
    by_cases hmark : c = '?'
    · subst hmark
      exact (LocalAt.pure true).cons fun _ => rfl
    · have hplain (s : List Char) : lazyMark (c :: s) = (false, c :: s) := by
        unfold lazyMark
        split
        · next heq => exact absurd (List.cons.inj heq).1 hmark
        · rfl
      exact .stop false fun more => congrArg some (hplain (rest ++ more))

/-- A repetition of the last part, after its sign. -/
def readRepetition (min : Nat) (max : Option Nat) : Reading State :=
  Reading.filterMap (fun s => some (lazyMark s)) fun lazy =>
    match state.parts.getLast? with
    | none | some .empty | some (.flags _) => none
    | some body => some { state with
        rest := []
        parts := state.parts.dropLast ++ [.repetition min max lazy body] }

theorem repeatLast_eq (min : Nat) (max : Option Nat) (text : List Char) :
    (repeatLast state min max text).map State.split = readRepetition state min max text := by
  unfold repeatLast readRepetition Reading.filterMap
  simp only [Option.bind_some]
  cases state.parts.getLast? with
  | none => rfl
  | some body => cases body <;> rfl

theorem local_readRepetition (min : Nat) (max : Option Nat) (text : List Char) :
    LocalAt Never (readRepetition state min max) text :=
  (local_lazyMark text).filterMap _

/-- A closing brace. -/
def closeCounts (counts : Option (Nat × Option Nat)) : Reading (Nat × Option Nat)
  | '\x7d' :: rest => counts.map fun counts => (counts, rest)
  | _ => none

/-- The greatest count, after the comma and the blanks there. -/
def readGreatest (verbose : Bool) (min : Nat) : Reading (Nat × Option Nat)
  | '\x7d' :: rest => some ((min, none), rest)
  | text => (Reading.andThen (readCount verbose) fun max =>
      closeCounts (if min ≤ max then some (min, some max) else none)) text

/-- What follows the least count. -/
def readSecondCount (verbose : Bool) (min : Nat) : Reading (Nat × Option Nat)
  | ',' :: rest => ((Reading.blank verbose).andThen fun _ => readGreatest verbose min) rest
  | '\x7d' :: rest => some ((min, some min), rest)
  | _ => none

theorem readCounts_eq (verbose : Bool) : readCounts verbose =
    (Reading.blank verbose).andThen fun _ =>
      Reading.andThen (readCount verbose) fun min => readSecondCount verbose min := by
  funext text
  show _ = (readCount verbose (skip verbose text)).bind fun p => readSecondCount verbose p.1 p.2
  unfold readCounts
  cases readCount verbose (skip verbose text) with
  | none => rfl
  | some p =>
    obtain ⟨min, rest⟩ := p
    simp only [Option.bind_eq_bind, Option.bind_some]
    split
    · next rest =>
      show _ = readGreatest verbose min (skip verbose rest)
      generalize skip verbose rest = inner
      split
      · rfl
      · next hne =>
        rw [readGreatest.eq_2 _ _ _ hne, Reading.andThen]
        cases readCount verbose inner with
        | none => rfl
        | some q =>
          obtain ⟨max, rest⟩ := q
          simp only [Option.bind_some]
          split
          · next rest =>
            rw [closeCounts.eq_1]
            split <;> rfl
          · next hne => exact (closeCounts.eq_2 _ _ hne).symm
    · rfl
    · next hcomma hbrace => exact (readSecondCount.eq_3 _ _ _ hcomma hbrace).symm

theorem local_closeCounts (counts : Option (Nat × Option Nat)) (text : List Char) :
    LocalAt Never (closeCounts counts) text := by
  cases text with
  | nil => exact .failed rfl fun more y rest h => nomatch h
  | cons c rest =>
    by_cases hbrace : c = '\x7d'
    · subst hbrace
      cases counts with
      | none => exact LocalAt.none.cons fun _ => rfl
      | some counts => exact (LocalAt.pure counts).cons fun _ => rfl
    · exact LocalAt.none.cons fun s => closeCounts.eq_2 _ _ (by simp [hbrace])

theorem local_readGreatest (verbose : Bool) (min : Nat) (text : List Char) :
    LocalAt Never (readGreatest verbose min) text := by
  have hcount (s : List Char) : LocalAt Never (Reading.andThen (readCount verbose) fun max =>
      closeCounts (if min ≤ max then some (min, some max) else none)) s :=
    (local_readCount verbose s).andThen fun max rest => local_closeCounts _ rest
  cases text with
  | nil => exact (hcount []).of_eq List.suffix_rfl rfl fun more => rfl
  | cons c rest =>
    by_cases hbrace : c = '\x7d'
    · subst hbrace
      exact (LocalAt.pure (min, none)).cons fun _ => rfl
    · exact (hcount (c :: rest)).congr fun s => readGreatest.eq_2 _ _ _ (by simp [hbrace])

theorem local_readSecondCount (verbose : Bool) (min : Nat) (text : List Char) :
    LocalAt Never (readSecondCount verbose min) text := by
  cases text with
  | nil => exact .failed rfl fun more y rest h => nomatch h
  | cons c rest =>
    by_cases hcomma : c = ','
    · subst hcomma
      refine LocalAt.cons ?_ (readSecondCount.eq_1 verbose min)
      exact (local_blank verbose rest).andThen fun _ rest => local_readGreatest verbose min rest
    by_cases hbrace : c = '\x7d'
    · subst hbrace
      exact (LocalAt.pure (min, some min)).cons fun _ => rfl
    exact LocalAt.none.cons fun s => readSecondCount.eq_3 _ _ _ (by simp [hcomma])
      (by simp [hbrace])

theorem local_readCounts (verbose : Bool) (text : List Char) :
    LocalAt Never (readCounts verbose) text := by
  rw [readCounts_eq]
  refine (local_blank verbose text).andThen fun _ rest => ?_
  exact (local_readCount verbose rest).andThen fun min rest =>
    local_readSecondCount verbose min rest

/-! ## Steps -/

/-- But for a backslash, a character is read without a look at what follows it. -/
theorem readAtom_plain (verbose : Bool) {c : Char} (hc : c ≠ '\\') :
    ∃ atom, ∀ s, readAtom verbose (c :: s) = some (atom, s) := by
  by_cases hdot : c = '.'
  · exact ⟨.dot, fun s => by rw [hdot]; rfl⟩
  by_cases hstart : c = '^'
  · exact ⟨.assertion .lineStart, fun s => by rw [hstart]; rfl⟩
  by_cases hend : c = '$'
  · exact ⟨.assertion .lineEnd, fun s => by rw [hend]; rfl⟩
  exact ⟨.literal ⟨c, false⟩, fun s => readAtom.eq_6 verbose c s hc hdot hstart hend⟩

theorem local_readAtom (verbose : Bool) (c : Char) (text : List Char) :
    LocalAt (fun more x rest => x = .assertion .wordBoundary ∧ Dangling verbose more rest)
      (fun s => readAtom verbose (c :: s)) text := by
  by_cases hescape : c = '\\'
  · subst hescape
    exact local_readEscape verbose text
  · obtain ⟨atom, hatom⟩ := readAtom_plain verbose hescape
    rw [funext hatom]
    exact .pure atom

/-- A step, as a reader of the text. -/
def readStep : Reading State := fun text => (step { state with rest := text }).map State.split

theorem readStep_group (s : List Char) : readStep state ('(' :: s) =
    ((Reading.blank state.verbose).andThen fun _ => readOpening state) s :=
  readGroup_eq { state with rest := '(' :: s } s

theorem readStep_bar (s : List Char) : readStep state ('|' :: s) =
    some ({ endBranch state [] with rest := [] }, s) := rfl

theorem readStep_class (s : List Char) : readStep state ('[' :: s) =
    (Reading.map (fun s => Bracket.readClass state.verbose [] [] ('[' :: s)) fun p => { state with
      rest := []
      parts := state.parts ++ [.bracketed p.1 p.2] }) s := by
  unfold readStep step Reading.map Bracket.readClass Bracket.read
  simp only [Option.map_map]
  rfl

theorem readStep_optional (s : List Char) :
    readStep state ('?' :: s) = readRepetition state 0 (some 1) s :=
  repeatLast_eq { state with rest := '?' :: s } 0 (some 1) s

theorem readStep_star (s : List Char) :
    readStep state ('*' :: s) = readRepetition state 0 none s :=
  repeatLast_eq { state with rest := '*' :: s } 0 none s

theorem readStep_plus (s : List Char) :
    readStep state ('+' :: s) = readRepetition state 1 none s :=
  repeatLast_eq { state with rest := '+' :: s } 1 none s

theorem readStep_brace (s : List Char) : readStep state ('\x7b' :: s) =
    (Reading.andThen (readCounts state.verbose) fun counts =>
      (Reading.blank state.verbose).andThen fun _ => readRepetition state counts.1 counts.2) s := by
  show ((readCounts state.verbose s).bind fun p => repeatLast { state with rest := '\x7b' :: s }
    p.1.1 p.1.2 (skip state.verbose p.2)).map State.split = _
  unfold Reading.andThen
  cases readCounts state.verbose s with
  | none => rfl
  | some p => exact repeatLast_eq { state with rest := '\x7b' :: s } p.1.1 p.1.2 _

/-- The characters that start something else than a part of their own. -/
def signs : List Char := ['(', ')', '|', '[', '?', '*', '+', '\x7b']

theorem readStep_atom {c : Char} (hc : c ∉ signs) (s : List Char) : readStep state (c :: s) =
    (Reading.map (fun s => readAtom state.verbose (c :: s)) fun atom => { state with
      rest := []
      parts := state.parts ++ [atomSyntax atom] }) s := by
  simp only [signs, List.mem_cons, List.not_mem_nil, or_false, not_or] at hc
  obtain ⟨hopen, hclose, hbar, hclass, hoptional, hstar, hplus, hbrace⟩ := hc
  unfold readStep Reading.map step
  simp only
  split
  · next heq => cases heq
  · next heq => exact absurd (List.cons.inj heq).1 hopen
  · next heq => exact absurd (List.cons.inj heq).1 hclose
  · next heq => exact absurd (List.cons.inj heq).1 hbar
  · next heq => exact absurd (List.cons.inj heq).1 hclass
  · next heq => exact absurd (List.cons.inj heq).1 hoptional
  · next heq => exact absurd (List.cons.inj heq).1 hstar
  · next heq => exact absurd (List.cons.inj heq).1 hplus
  · next heq => exact absurd (List.cons.inj heq).1 hbrace
  · rw [Option.map_map]
    rfl

theorem isBlank_bracket : Text.isBlank '[' = false := by decide +kernel

/-- The innermost group closed, if there is one. -/
def closed? : Option State :=
  match settle state with
  | (body, .group before captures flags verbose :: stack) =>
    some { state with rest := [], verbose, stack, parts := before ++ [.group captures flags body] }
  | _ => none

theorem readStep_close (s : List Char) : readStep state (')' :: s) =
    (closed? state).map fun next => (next, s) := by
  have hclose (text rest : List Char) : closeGroup { state with rest := text } rest =
      match settle state with
      | (body, .group before captures flags verbose :: stack) => some { state with
          rest
          verbose
          stack
          parts := before ++ [.group captures flags body] }
      | _ => none := rfl
  unfold readStep step closed?
  simp only [hclose]
  split <;> rfl

/-- A step is local after its first character, but for a boundary that leaves a brace to be read. -/
theorem local_readStep (c : Char) (text : List Char) :
    LocalAt (fun more (next : State) rest =>
        next.verbose = state.verbose ∧ Dangling state.verbose more rest)
      (fun s => readStep state (c :: s)) text := by
  by_cases hsign : c ∈ signs
  · simp only [signs, List.mem_cons, List.not_mem_nil, or_false] at hsign
    obtain rfl | rfl | rfl | rfl | rfl | rfl | rfl | rfl := hsign
    · rw [funext (readStep_group state)]
      exact (local_blank _ text).andThen fun _ rest => (local_readOpening state rest).of_never
    · rw [funext (readStep_close state)]
      cases closed? state with
      | none => exact .none
      | some next => exact .pure next
    · rw [funext (readStep_bar state)]
      exact .pure _
    · have hclass := (Bracket.local_readClass state.verbose [] [] ('[' :: text)).tail
        fun x rest h =>
          Bracket.suffix_of_readClass _ _ _ (skip_cons isBlank_bracket (by decide) _ text) h
      rw [funext (readStep_class state)]
      exact hclass.map _
    · rw [funext (readStep_optional state)]
      exact (local_readRepetition state 0 (some 1) text).of_never
    · rw [funext (readStep_star state)]
      exact (local_readRepetition state 0 none text).of_never
    · rw [funext (readStep_plus state)]
      exact (local_readRepetition state 1 none text).of_never
    · rw [funext (readStep_brace state)]
      refine (local_readCounts state.verbose text).andThen fun counts rest => ?_
      exact (local_blank _ rest).andThen fun _ rest =>
        (local_readRepetition state _ _ rest).of_never
  · rw [funext (readStep_atom state hsign)]
    exact (local_readAtom state.verbose c text).map_of fun more x rest h => ⟨rfl, h.2⟩

end InstanceFilter.Pattern.Reader
