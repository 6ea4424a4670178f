/-
Reading a text inside a group. A text that is read to its end on its own is read to the same place
inside a group, so the parenthesis after it ends that group; unless it ends in a comment, which
takes the parenthesis in, or has a parenthesis of its own that ends the group before. A text that
is not read on its own leaves the group open for good.

The reader treats what lies below the innermost open group as it finds it, so a step of it is the
same step above any stack.
-/
import InstanceFilter.Proofs.Pattern.Reader

namespace InstanceFilter.Pattern.Reader

variable (state : State)

/-! ## Above a stack -/

/-- The state with more frames below those that it has. -/
def State.above (state : State) (below : List Frame) : State :=
  { state with stack := state.stack ++ below }

/-- A stack whose top is no choice, so that a bar starts one of its own. -/
def Grounded (below : List Frame) : Prop := ∀ branches rest, below ≠ .alternation branches :: rest

variable {below : List Frame}

theorem settle_above (hbelow : Grounded below) :
    settle (state.above below) = ((settle state).1, (settle state).2 ++ below) := by
  unfold settle State.above
  cases hstack : state.stack with
  | nil =>
    cases below with
    | nil => rfl
    | cons frame rest =>
      cases frame with
      | group => rfl
      | alternation branches => exact absurd rfl (hbelow branches rest)
  | cons frame stack => cases frame <;> rfl

theorem endBranch_above (hbelow : Grounded below) (rest : List Char) :
    endBranch (state.above below) rest = (endBranch state rest).above below := by
  unfold endBranch State.above
  cases hstack : state.stack with
  | nil =>
    cases below with
    | nil => rfl
    | cons frame rest =>
      cases frame with
      | group => rfl
      | alternation branches => exact absurd rfl (hbelow branches rest)
  | cons frame stack => cases frame <;> rfl

/-- What has been read, above a stack. -/
def liftAbove (below : List Frame) (p : State × List Char) : State × List Char :=
  (p.1.above below, p.2)

theorem map_liftAbove {α : Type} (f : Reading α) (g : α → State) (text : List Char) :
    (Reading.map f g text).map (liftAbove below) =
      Reading.map f (fun x => (g x).above below) text := Option.map_map ..

theorem filterMap_liftAbove {α : Type} (f : Reading α) (g : α → Option State) (text : List Char) :
    (Reading.filterMap f g text).map (liftAbove below) =
      Reading.filterMap f (fun x => (g x).map (State.above · below)) text := by
  unfold Reading.filterMap
  cases f text with
  | none => rfl
  | some p => cases h : g p.1 <;> simp [h, liftAbove]

theorem readNamedGroup_above (text : List Char) : readNamedGroup (state.above below) text =
    (readNamedGroup state text).map (liftAbove below) := by
  unfold readNamedGroup
  rw [filterMap_liftAbove]
  congr 1
  funext name
  rw [apply_ite (Option.map (State.above · below))]
  rfl

theorem readFlagGroup_above (text : List Char) : readFlagGroup (state.above below) text =
    (readFlagGroup state text).map (liftAbove below) := by
  unfold readFlagGroup
  rw [filterMap_liftAbove]
  congr 1
  funext p
  rw [apply_ite (Option.map (State.above · below)), apply_ite (Option.map (State.above · below))]
  rfl

theorem readOpening_above (text : List Char) : readOpening (state.above below) text =
    (readOpening state text).map (liftAbove below) := by
  unfold readOpening
  split
  · rfl
  · rfl
  · rfl
  · rfl
  · exact readNamedGroup_above state _
  · exact readNamedGroup_above state _
  · exact readFlagGroup_above state _
  · rfl

theorem readRepetition_above (min : Nat) (max : Option Nat) (text : List Char) :
    readRepetition (state.above below) min max text =
      (readRepetition state min max text).map (liftAbove below) := by
  unfold readRepetition
  rw [filterMap_liftAbove]
  congr 1
  funext lazy
  have hparts : (state.above below).parts = state.parts := rfl
  rw [hparts]
  cases state.parts.getLast? with
  | none => rfl
  | some body => cases body <;> rfl

/-- The parenthesis has no group to close. -/
def Closes (c : Char) : Prop := c = ')' ∧ (settle state).2 = []

theorem closed?_above (hbelow : Grounded below) (hopen : (settle state).2 ≠ []) :
    closed? (state.above below) = (closed? state).map (State.above · below) := by
  unfold closed?
  rw [settle_above state hbelow]
  generalize settle state = settled at hopen ⊢
  obtain ⟨body, stack⟩ := settled
  cases stack with
  | nil => exact absurd rfl hopen
  | cons frame stack => cases frame <;> rfl

/-- A step is the same above any stack, unless it closes a group of that stack. -/
theorem readStep_above (hbelow : Grounded below) {c : Char} (hc : ¬Closes state c)
    (text : List Char) : readStep (state.above below) (c :: text) =
      (readStep state (c :: text)).map (liftAbove below) := by
  by_cases hsign : c ∈ signs
  · simp only [signs, List.mem_cons, List.not_mem_nil, or_false] at hsign
    obtain rfl | rfl | rfl | rfl | rfl | rfl | rfl | rfl := hsign
    · rw [readStep_group, readStep_group]
      exact readOpening_above state _
    · have hopen : (settle state).2 ≠ [] := fun h => hc ⟨rfl, h⟩
      rw [readStep_close, readStep_close, closed?_above state hbelow hopen, Option.map_map,
        Option.map_map]
      rfl
    · rw [readStep_bar, readStep_bar, endBranch_above state hbelow]
      rfl
    · rw [readStep_class, readStep_class, map_liftAbove]
      rfl
    · rw [readStep_optional, readStep_optional]
      exact readRepetition_above state 0 (some 1) text
    · rw [readStep_star, readStep_star]
      exact readRepetition_above state 0 none text
    · rw [readStep_plus, readStep_plus]
      exact readRepetition_above state 1 none text
    · rw [readStep_brace, readStep_brace]
      unfold Reading.andThen
      show ((readCounts state.verbose text).bind _) = _
      cases readCounts state.verbose text with
      | none => rfl
      | some p => exact readRepetition_above state p.1.1 p.1.2 _
  · rw [readStep_atom _ hsign, readStep_atom _ hsign, map_liftAbove]
    rfl

/-! ## Reading to the end -/

/-- A text read to its end. -/
def readAll (text : List Char) : Option State := run { state with rest := text }

theorem length_readStep_lt {text rest : List Char} {next : State}
    (h : readStep state text = some (next, rest)) : rest.length < text.length := by
  cases text with
  | nil => cases h
  | cons c text => exact Nat.lt_succ_of_le ((local_readStep state c text).suffix h).length_le

theorem readAll_of_skip_nil {text : List Char} (h : skip state.verbose text = []) :
    readAll state text = some { state with rest := [] } := by
  unfold readAll
  rw [run]
  simp only [h]

/-- A text is read step by step, since each step reads something. -/
theorem readAll_of_skip_cons {text : List Char} {c : Char} {inner : List Char}
    (h : skip state.verbose text = c :: inner) :
    readAll state text = (readStep state (c :: inner)).bind fun p => readAll p.1 p.2 := by
  have hread : readStep state (c :: inner) =
      (step { state with rest := c :: inner }).map State.split := rfl
  unfold readAll
  rw [run]
  simp only [h]
  cases hstep : step { state with rest := c :: inner } with
  | none =>
    rw [hread, hstep]
    rfl
  | some next =>
    rw [hstep, Option.map_some] at hread
    have hshort : next.rest.length < text.length :=
      Nat.lt_of_lt_of_le (length_readStep_lt state hread) (h ▸ length_skip_le state.verbose text)
    rw [hread]
    simp only [if_pos hshort]
    rfl

theorem readAll_nil : readAll state [] = some { state with rest := [] } :=
  readAll_of_skip_nil state (by cases state.verbose <;> rfl)

/-! ## Groups that stay open -/

def Frame.isGroup : Frame → Bool
  | .group .. => true
  | .alternation _ => false

theorem grounded_of_isGroup {frame : Frame} (h : frame.isGroup = true) (stack : List Frame) :
    Grounded (frame :: stack) := by
  rintro branches rest heq
  cases heq
  cases h

/-- A step that closes no group leaves the groups on the stack. -/
theorem mem_stack_of_readStep {frame : Frame} (hgroup : frame.isGroup = true)
    (hmem : frame ∈ state.stack) {c : Char} (hc : c ≠ ')') {text rest : List Char} {next : State}
    (h : readStep state (c :: text) = some (next, rest)) : frame ∈ next.stack := by
  obtain ⟨before, after, hstack⟩ := List.append_of_mem hmem
  have habove : state = State.above { state with stack := before } (frame :: after) := by
    unfold State.above
    rw [← hstack]
  rw [habove, readStep_above _ (grounded_of_isGroup hgroup after) fun hcloses => hc hcloses.1] at h
  obtain ⟨p, -, heq⟩ := Option.map_eq_some_iff.1 h
  cases heq
  exact List.mem_append_right _ List.mem_cons_self

/-- Without a parenthesis in the text, the groups that are open stay open. -/
theorem mem_stack_of_readAll {frame : Frame} (hgroup : frame.isGroup = true)
    (hmem : frame ∈ state.stack) {text : List Char} (hparen : ')' ∉ text) {final : State}
    (h : readAll state text = some final) : frame ∈ final.stack := by
  induction hlength : text.length using Nat.strongRecOn generalizing state text with
  | ind length ih =>
    cases hskip : skip state.verbose text with
    | nil =>
      rw [readAll_of_skip_nil state hskip] at h
      cases h
      exact hmem
    | cons c inner =>
      rw [readAll_of_skip_cons state hskip] at h
      obtain ⟨⟨next, rest⟩, hstep, h⟩ := Option.bind_eq_some_iff.1 h
      have hsuffix : c :: inner <:+ text := hskip ▸ skip_suffix state.verbose text
      have hc : c ≠ ')' := fun hc => hparen (hsuffix.subset (hc ▸ List.mem_cons_self))
      have hrest : rest <:+ inner := (local_readStep state c inner).suffix hstep
      have hshort : rest.length < text.length := by
        have := hrest.length_le
        have := hsuffix.length_le
        simp only [List.length_cons] at this
        omega
      exact ih rest.length (hlength ▸ hshort) next
        (mem_stack_of_readStep state hgroup hmem hc hstep)
        (fun hmem => hparen (hsuffix.subset (List.mem_cons_of_mem c (hrest.subset hmem)))) h rfl

/-! ## A brace with nothing to count -/

theorem isBlank_brace : Text.isBlank '\x7b' = false := by decide +kernel

theorem readCounts_eq_none {verbose : Bool} {text more : List Char}
    (h : skip verbose text = [] ∨ skip verbose text = ')' :: more) :
    readCounts verbose text = none := by
  have hnil : readCount verbose [] = none := by
    simp [readCount, Text.trimLeft, readDigits]
  have hparen : readCount verbose (')' :: more) = none := by
    have htrim : Text.trimLeft (')' :: more) = ')' :: more :=
      List.dropWhile_cons_of_neg (by simp [isBlank_paren])
    have hdigit : ')'.isDigit = false := by decide
    simp [readCount, htrim, readDigits, hdigit]
  rw [readCounts_eq]
  show (readCount verbose (skip verbose text)).bind _ = none
  obtain h | h := h <;> rw [h] <;> simp [hnil, hparen]

/-- Nothing can be repeated by a brace with only blanks after it. -/
theorem readAll_brace_eq_none {text more : List Char}
    (h : skip state.verbose text = [] ∨ skip state.verbose text = ')' :: more) :
    readAll state ('\x7b' :: text) = none := by
  rw [readAll_of_skip_cons state (skip_cons isBlank_brace (by decide) _ _), readStep_brace,
    Reading.andThen, readCounts_eq_none h]
  rfl

/-! ## Inside a group -/

/-- What comes of a text on its own, and of the text in a group, with the parenthesis that is to
close the group and more after it. -/
inductive Enclosing (state : State) (text : List Char) : Prop
  /-- The text is read, and then the parenthesis. -/
  | kept (final : State) (here : readAll state text = some final)
      (there : ∀ below more, Grounded below →
        readAll (state.above below) (text ++ ')' :: more) =
          readAll (final.above below) (')' :: more))
  /-- The text ends in a comment, which takes the parenthesis in. -/
  | swallowed (final : State) (here : readAll state text = some final)
      (there : ∀ below more, Grounded below → '\n' ∉ more →
        readAll (state.above below) (text ++ ')' :: more) = some (final.above below))
  /-- The text is not read on its own, and leaves the group open. -/
  | failed (here : readAll state text = none)
      (there : ∀ below more final, Grounded below → '\n' ∉ more → ')' ∉ more →
        readAll (state.above below) (text ++ ')' :: more) = some final →
          ∀ frame ∈ below, frame.isGroup = true → frame ∈ final.stack)
  /-- A parenthesis within the text closes the group. -/
  | closes (before after : List Char) (final : State) (split : text = before ++ ')' :: after)
      (here : readAll state before = some final) (opened : (settle final).2 = [])
      (there : readAll state (before ++ [')']) = none)

theorem closed?_eq_none (h : (settle state).2 = []) : closed? state = none := by
  unfold closed?
  generalize settle state = settled at h ⊢
  obtain ⟨body, stack⟩ := settled
  subst h
  rfl

/-- Where only a parenthesis is left that has no group to close, the text before it is read. -/
theorem Enclosing.of_closes {text inner : List Char} (hopen : (settle state).2 = [])
    (hskip : skip state.verbose text = ')' :: inner) : Enclosing state text := by
  obtain ⟨before, rfl⟩ := hskip ▸ skip_suffix state.verbose text
  obtain hkept | ⟨-, -, hpast⟩ := skip_paren state.verbose before
  · have hblank : skip state.verbose before = [] :=
      List.append_left_eq_self.1 ((hkept inner).symm.trans hskip)
    refine .closes before inner { state with rest := [] } rfl
      (readAll_of_skip_nil state hblank) hopen ?_
    have hparen : skip state.verbose (before ++ [')']) = ')' :: [] := by rw [hkept, hblank]; rfl
    rw [readAll_of_skip_cons state hparen, readStep_close, closed?_eq_none state hopen]
    rfl
  · have hlonger := (hskip ▸ hpast inner).length_le
    simp only [List.length_cons] at hlonger
    omega

/-- A step does the same to a text that is cut off at a parenthesis which it leaves unread. -/
theorem readAll_cut {text before after inner : List Char} {c : Char} {next : State}
    (hskip : skip state.verbose (text ++ ')' :: after) = c :: inner)
    (hstep : readStep state (c :: inner) = some (next, before ++ ')' :: after))
    (hbefore : readAll next before ≠ none) :
    readAll state text = readAll next before ∧
      readAll state (text ++ [')']) = readAll next (before ++ [')']) := by
  have hlength := ((local_readStep state c inner).suffix hstep).length_le
  simp only [List.length_append, List.length_cons] at hlength
  -- What is left is longer than what follows the parenthesis.
  have hlong {rest : List Char} (h : rest = before ++ ')' :: after) : ¬rest <:+ after := by
    rintro hsuffix
    have := hsuffix.length_le
    rw [h] at this
    simp only [List.length_append, List.length_cons] at this
    omega
  obtain hkept | ⟨-, -, hpast⟩ := skip_paren state.verbose text
  · rw [hkept] at hskip
    cases hinner : skip state.verbose text with
    | nil =>
      rw [hinner] at hskip
      cases hskip
      omega
    | cons d inner' =>
      rw [hinner] at hskip
      cases hskip
      have hread (more : List Char) : readAll state (text ++ ')' :: more) =
          (readStep state (c :: (inner' ++ ')' :: more))).bind fun p => readAll p.1 p.2 :=
        readAll_of_skip_cons state (by rw [hkept, hinner]; rfl)
      cases local_readStep state c inner' with
      | kept next' rest _ here there =>
        obtain ⟨rfl, hrest⟩ := Prod.mk.inj (Option.some.inj ((there after).symm.trans hstep))
        obtain rfl := List.append_cancel_right hrest
        constructor
        · rw [readAll_of_skip_cons state hinner, here]
          rfl
        · rw [hread, there]
          rfl
      | swallowed _ _ _ past => exact absurd (past after next _ hstep) (hlong rfl)
      | failed here past =>
        obtain hsuffix | ⟨hverbose, blanks, hblank, heq⟩ := past after next _ hstep
        · exact absurd hsuffix (hlong rfl)
        · obtain rfl : before = '\x7b' :: blanks := List.append_cancel_right heq
          have hnothing : skip next.verbose blanks = [] ∨ skip next.verbose blanks = [')'] :=
            .inl (hverbose ▸ hblank)
          exact absurd (readAll_brace_eq_none next hnothing) hbefore
  · have := (hskip ▸ hpast after).length_le
    simp only [List.length_cons] at this
    omega

/-- What comes of what a step leaves comes of the text. -/
theorem Enclosing.of_step {text inner rest : List Char} {c : Char} {next : State}
    (hkept : ∀ more,
      skip state.verbose (text ++ ')' :: more) = skip state.verbose text ++ ')' :: more)
    (hskip : skip state.verbose text = c :: inner) (hc : ¬Closes state c)
    (here : readStep state (c :: inner) = some (next, rest))
    (there : ∀ more,
      readStep state (c :: (inner ++ ')' :: more)) = some (next, rest ++ ')' :: more))
    (h : Enclosing next rest) : Enclosing state text := by
  have hhere : readAll state text = readAll next rest := by
    rw [readAll_of_skip_cons state hskip, here]
    rfl
  have hthere (below : List Frame) (more : List Char) (hbelow : Grounded below) :
      readAll (state.above below) (text ++ ')' :: more) =
        readAll (next.above below) (rest ++ ')' :: more) := by
    have hinner : skip (state.above below).verbose (text ++ ')' :: more) =
        c :: (inner ++ ')' :: more) := (hkept more).trans (by rw [hskip]; rfl)
    rw [readAll_of_skip_cons _ hinner, readStep_above state hbelow hc, there]
    rfl
  cases h with
  | kept final here' there' =>
    exact .kept final (hhere.trans here')
      fun below more hbelow => (hthere below more hbelow).trans (there' below more hbelow)
  | swallowed final here' there' =>
    exact .swallowed final (hhere.trans here') fun below more hbelow hline =>
      (hthere below more hbelow).trans (there' below more hbelow hline)
  | failed here' there' =>
    exact .failed (hhere.trans here') fun below more final hbelow hline hparen hfinal =>
      there' below more final hbelow hline hparen ((hthere below more hbelow).symm.trans hfinal)
  | closes before after final split here' opened there' =>
    have hsuffix : rest <:+ text := ((local_readStep state c inner).suffix here).trans
      ((List.suffix_cons c inner).trans (hskip ▸ skip_suffix state.verbose text))
    obtain ⟨read, rfl⟩ := hsuffix
    subst split
    have hwhole : skip state.verbose ((read ++ before) ++ ')' :: after) = c :: inner := by
      rw [List.append_assoc]
      exact hskip
    have hbefore : readAll next before ≠ none := by
      rw [here']
      exact Option.some_ne_none final
    obtain ⟨hcut, hcutThere⟩ := readAll_cut state hwhole here hbefore
    exact .closes (read ++ before) after final (List.append_assoc ..).symm (hcut.trans here') opened
      (hcutThere.trans there')

/-- A text inside a group, by how it is read on its own. -/
theorem enclosing (text : List Char) : Enclosing state text := by
  -- By induction on the length of the text, of which each step leaves less.
  induction hlength : text.length using Nat.strongRecOn generalizing state text with
  | ind length ih =>
    obtain hkept | ⟨hhere, hline, -⟩ := skip_paren state.verbose text
    · cases hskip : skip state.verbose text with
      | nil =>
        refine .kept { state with rest := [] } (readAll_of_skip_nil state hskip)
          fun below more hbelow => ?_
        have hparen : skip (state.above below).verbose (text ++ ')' :: more) = ')' :: more :=
          (hkept more).trans (by rw [hskip]; rfl)
        rw [readAll_of_skip_cons _ hparen, readAll_of_skip_cons _ (skip_cons_paren _ more)]
        rfl
      | cons c inner =>
        by_cases hc : Closes state c
        · obtain ⟨rfl, hopen⟩ := hc
          exact .of_closes state hopen hskip
        have hread : inner.length < text.length := by
          have := hskip ▸ length_skip_le state.verbose text
          exact this
        have hinner (below : List Frame) (more : List Char) :
            skip (state.above below).verbose (text ++ ')' :: more) = c :: (inner ++ ')' :: more) :=
          (hkept more).trans (by rw [hskip]; rfl)
        cases local_readStep state c inner with
        | kept next rest hsuffix here there =>
          have hshort := hsuffix.length_le
          exact .of_step state hkept hskip hc here there
            (ih rest.length (by omega) next rest rfl)
        | swallowed next here line past =>
          -- The step ends in a comment, and nothing is left of the line.
          refine .swallowed { next with rest := [] } ?_ fun below more hbelow hmore => ?_
          · rw [readAll_of_skip_cons state hskip, here]
            exact readAll_nil next
          · rw [readAll_of_skip_cons _ (hinner below more), readStep_above state hbelow hc,
              line more hmore]
            exact readAll_nil (next.above below)
        | failed here past =>
          refine .failed ?_
            fun below more final hbelow hline hparen hfinal frame hframe hgroup => ?_
          · rw [readAll_of_skip_cons state hskip, here]
            rfl
          · rw [readAll_of_skip_cons _ (hinner below more), readStep_above state hbelow hc]
              at hfinal
            obtain ⟨p, hp, hfinal⟩ := Option.bind_eq_some_iff.1 hfinal
            obtain ⟨⟨next, rest⟩, hstep, rfl⟩ := Option.map_eq_some_iff.1 hp
            -- Read past the parenthesis, the text has none left that could close the group; and a
            -- brace left before the parenthesis starts no repetition.
            obtain hsuffix | ⟨hverbose, blanks, hblank, rfl⟩ := past more next rest hstep
            · exact mem_stack_of_readAll (next.above below) hgroup
                (List.mem_append_right _ hframe) (fun hmem => hparen (hsuffix.subset hmem)) hfinal
            · have hbrace : skip next.verbose (blanks ++ ')' :: more) = [] ∨
                  skip next.verbose (blanks ++ ')' :: more) = ')' :: more := by
                rw [hverbose]
                obtain hkept | ⟨-, hpast, -⟩ := skip_paren state.verbose blanks
                · exact .inr (by rw [hkept, hblank]; rfl)
                · exact .inl (hpast more hline)
              cases (readAll_brace_eq_none (next.above below) hbrace).symm.trans hfinal
    · exact .swallowed { state with rest := [] } (readAll_of_skip_nil state hhere)
        fun below more hbelow hmore => readAll_of_skip_nil (state.above below) (hline more hmore)

end InstanceFilter.Pattern.Reader
