/-
Locality of the reader of classes. Inside brackets a parenthesis is a character like any other, so a
class that is not closed where the text ends is read past the parenthesis if at all. Its items may
end right before the parenthesis all the same, where the text without it has nothing to say whether
a range follows; the bracket that is still open then takes the parenthesis in.
-/
import InstanceFilter.Pattern.Bracket
import InstanceFilter.Proofs.Pattern.Atom

namespace InstanceFilter.Pattern.Bracket

variable (verbose : Bool)

/-- What is left to read starts with the parenthesis. -/
def AtParen {α : Type} (more : List Char) (_ : α) (rest : List Char) : Prop := rest = ')' :: more

/-! ## Items -/

/-- An item, after its first character. -/
def readPrimitiveFrom (c : Char) : Reading Atom :=
  if c = '\\' then readEscape verbose else fun s => some (.literal ⟨c, false⟩, s)

theorem readPrimitive_cons (c : Char) (s : List Char) :
    readPrimitive verbose (c :: s) = readPrimitiveFrom verbose c s := by
  unfold readPrimitiveFrom
  split
  · next h => subst h; rfl
  · next h => exact readPrimitive.eq_3 _ _ _ h

theorem local_readPrimitiveFrom (c : Char) (text : List Char) :
    LocalAt (fun more x rest => x = .assertion .wordBoundary ∧ Dangling verbose more rest)
      (readPrimitiveFrom verbose c) text := by
  unfold readPrimitiveFrom
  split
  · exact local_readEscape verbose text
  · exact .pure _

theorem local_readPrimitive (text : List Char) :
    LocalAt (fun more x rest => x = .assertion .wordBoundary ∧ Dangling verbose more rest)
      (readPrimitive verbose) text := by
  cases text with
  | nil =>
    refine .failed rfl fun more y rest h => ?_
    cases h
    exact .inl List.suffix_rfl
  | cons c rest =>
    exact (local_readPrimitiveFrom verbose c rest).cons (readPrimitive_cons verbose c)

theorem go_paren (seen : Bool) (text more : List Char) :
    peekPast.go seen (text ++ ')' :: more) = some ((peekPast.go seen text).getD ')') := by
  induction text generalizing seen with
  | nil => simp [peekPast.go, isBlank_paren]
  | cons c rest ih =>
    rw [List.cons_append, peekPast.go, peekPast.go]
    split
    · exact ih seen
    · split
      · exact ih true
      · rfl

/-- Only blanks and number signs are looked past. -/
theorem of_go_eq_none {seen : Bool} {c : Char} {rest : List Char}
    (h : peekPast.go seen (c :: rest) = none) : Text.isBlank c = true ∨ c = '#' := by
  rw [peekPast.go] at h
  split at h
  · next hblank => exact .inl hblank
  · split at h
    · next hcomment => exact .inr (by simp_all)
    · cases h

/-- What decides about a hyphen is never the parenthesis, nor that the text ends. -/
theorem peekPast_paren {d : Char} (hparen : ')' ≠ d) (hcomment : '#' ≠ d)
    (hblank : Text.isBlank d = false) (text more : List Char) :
    (peekPast verbose (text ++ ')' :: more) == some d) = (peekPast verbose text == some d) := by
  cases verbose with
  | false => cases text <;> simp [peekPast, hparen]
  | true =>
    have hthere :
        peekPast true (text ++ ')' :: more) = some ((peekPast.go false text).getD ')') := by
      simp [peekPast, go_paren]
    rw [hthere]
    cases hgo : peekPast.go false text with
    | some x => simp [peekPast, hgo]
    | none =>
      cases text with
      | nil => simp [peekPast, hgo, hparen]
      | cons c rest =>
        have hc : c ≠ d := by
          rintro rfl
          obtain h | rfl := of_go_eq_none hgo
          · rw [hblank] at h
            cases h
          · exact hcomment rfl
        simp [peekPast, hgo, beq_false_of_ne hparen, beq_false_of_ne hc]

/-- An item or a range, after its first literal and the blanks there. -/
def readItemAfter (first : Atom) : Reading ClassItem
  | [] => none
  | c :: rest =>
    if c != '-' || peekPast verbose rest == some ']' || peekPast verbose rest == some '-' then
      (itemOf first).map fun item => (item, c :: rest)
    else
      ((Reading.blank verbose).andThen fun _ =>
        Reading.filterMap (readPrimitive verbose) (rangeOf first)) rest

theorem readItem_cons (c : Char) (s : List Char) : readItem verbose (c :: s) =
    ((readPrimitiveFrom verbose c).andThen fun first =>
      (Reading.blank verbose).andThen fun _ => readItemAfter verbose first) s := by
  unfold readItem Reading.andThen Reading.blank
  rw [readPrimitive_cons]
  cases readPrimitiveFrom verbose c s with
  | none => rfl
  | some p =>
    obtain ⟨first, rest⟩ := p
    simp only [Option.bind_eq_bind, Option.bind_some]
    cases skip verbose rest with
    | nil => rfl
    | cons d rest =>
      simp only [readItemAfter]
      split
      · cases itemOf first <;> rfl
      · unfold Reading.andThen Reading.filterMap Reading.blank
        simp only [Option.bind_some]
        cases readPrimitive verbose (skip verbose rest) with
        | none => rfl
        | some q => cases h : rangeOf first q.1 <;> simp [h]

theorem isBlank_bracket : Text.isBlank ']' = false := by decide +kernel

theorem isBlank_hyphen : Text.isBlank '-' = false := by decide +kernel

theorem local_readItemAfter (first : Atom) (text : List Char) :
    LocalAt AtParen (readItemAfter verbose first) text := by
  have hitem {s t : List Char} (h : readItemAfter verbose first s =
      (itemOf first).map fun item => (item, t)) {y : ClassItem} {rest : List Char}
      (hy : readItemAfter verbose first s = some (y, rest)) : rest = t := by
    obtain ⟨item, -, heq⟩ := Option.map_eq_some_iff.1 (h.symm.trans hy)
    cases heq
    rfl
  cases text with
  | nil =>
    refine .failed rfl fun more y rest hy => .inr (hitem ?_ hy)
    rw [List.nil_append, readItemAfter]
    exact if_pos (by simp)
  | cons c rest =>
    have hnext (more : List Char) :
        (c != '-' || peekPast verbose (rest ++ ')' :: more) == some ']' ||
          peekPast verbose (rest ++ ')' :: more) == some '-') =
        (c != '-' || peekPast verbose rest == some ']' || peekPast verbose rest == some '-') := by
      rw [peekPast_paren verbose (by decide) (by decide) isBlank_bracket,
        peekPast_paren verbose (by decide) (by decide) isBlank_hyphen]
    by_cases hend : (c != '-' || peekPast verbose rest == some ']' ||
        peekPast verbose rest == some '-') = true
    · have hhere : readItemAfter verbose first (c :: rest) =
          (itemOf first).map fun item => (item, c :: rest) := if_pos hend
      have hthere (more : List Char) : readItemAfter verbose first (c :: rest ++ ')' :: more) =
          (itemOf first).map fun item => (item, c :: rest ++ ')' :: more) :=
        if_pos ((hnext more).trans hend)
      cases h : itemOf first with
      | none =>
        refine .failed (by rw [hhere, h]; rfl) fun more y rest' hy => ?_
        rw [hthere, h] at hy
        cases hy
      | some item =>
        refine .kept item (c :: rest) List.suffix_rfl (by rw [hhere, h]; rfl) fun more => ?_
        rw [hthere, h]
        rfl
    · have hrange : LocalAt AtParen ((Reading.blank verbose).andThen fun _ =>
          Reading.filterMap (readPrimitive verbose) (rangeOf first)) rest := by
        refine (local_blank verbose rest).andThen fun _ rest => ?_
        refine (local_readPrimitive verbose rest).filterMap_of fun more x _ item h hitem => ?_
        -- A boundary is no end of a range.
        rw [h.1] at hitem
        cases first <;> cases hitem
      exact hrange.of_eq (List.suffix_cons c rest) (if_neg hend)
        fun more => if_neg fun h => hend ((hnext more).symm.trans h)

/-- No item and no range starts with a boundary. -/
theorem readItemAfter_assertion (kind : Assertion) (text : List Char) :
    readItemAfter verbose (.assertion kind) text = none := by
  cases text with
  | nil => rfl
  | cons c rest =>
    rw [readItemAfter]
    split
    · rfl
    · unfold Reading.andThen Reading.filterMap
      simp [rangeOf]

/-- An item is local after its first character: the character has been read whatever follows. -/
theorem local_readItem (c : Char) (text : List Char) :
    LocalAt AtParen (fun s => readItem verbose (c :: s)) text := by
  rw [funext (readItem_cons verbose c)]
  have hafter (first : Atom) (rest : List Char) : LocalAt AtParen
      ((Reading.blank verbose).andThen fun _ => readItemAfter verbose first) rest :=
    (local_blank verbose rest).andThen fun _ rest => local_readItemAfter verbose first rest
  refine (local_readPrimitiveFrom verbose c text).bind (fun first rest _ => hafter first rest)
    (fun first => LocalAt.advances (hafter first)) fun more x rest y rest' h hy => ?_
  rw [h.1] at hy
  obtain ⟨p, -, hy⟩ := Option.bind_eq_some_iff.1 hy
  cases (readItemAfter_assertion verbose _ _).symm.trans hy

/-! ## Named classes -/

theorem not_mem_of_asciiClass? {name : String} {kind : AsciiClass}
    (h : asciiClass? name = some kind) : ')' ∉ name.toList := by
  unfold asciiClass? at h
  split at h <;> first | decide | cases h

/-- After a named class and its colon. -/
def readClassEnd (kind : Option AsciiClass) (negated : Bool) : Reading ClassItem
  | ':' :: ']' :: after => kind.map fun kind => (.ascii kind negated, after)
  | _ => none

/-- The name of a class, after the colon and the mark of negation. -/
def readClassName (negated : Bool) (text : List Char) : Option (ClassItem × List Char) :=
  readClassEnd (asciiClass? (String.ofList (text.takeWhile (· != ':')))) negated
    (text.dropWhile (· != ':'))

theorem readClassEnd_none (negated : Bool) (text : List Char) :
    readClassEnd none negated text = none := by
  unfold readClassEnd
  split <;> rfl

theorem readClassEnd_paren (kind : Option AsciiClass) (negated : Bool) (c : Char)
    (text more : List Char) : readClassEnd kind negated (c :: text ++ ')' :: more) =
      (readClassEnd kind negated (c :: text)).map fun p => (p.1, p.2 ++ ')' :: more) := by
  cases kind with
  | none => simp only [readClassEnd_none, Option.map_none]
  | some kind =>
    cases text with
    | nil => simp [readClassEnd]
    | cons d after =>
      by_cases h : c = ':' ∧ d = ']'
      · obtain ⟨rfl, rfl⟩ := h
        rfl
      · have hnone (s : List Char) : readClassEnd (some kind) negated (c :: d :: s) = none :=
          readClassEnd.eq_2 _ _ _ fun after heq => by
            cases heq
            exact h ⟨rfl, rfl⟩
        rw [hnone after]
        exact hnone (after ++ ')' :: more)

theorem readClassName_paren (negated : Bool) (text more : List Char) :
    readClassName negated (text ++ ')' :: more) =
      (readClassName negated text).map fun p => (p.1, p.2 ++ ')' :: more) := by
  unfold readClassName
  obtain ⟨hdrop, htake⟩ | ⟨c, rest, hdrop, htake, hdrop'⟩ :=
    takeWhile_paren (p := (· != ':')) rfl text more
  · -- Without a colon the name takes the parenthesis in, and no class has it in its name.
    rw [hdrop, htake]
    cases hkind : asciiClass? (String.ofList (text ++ ')' :: more.takeWhile (· != ':'))) with
    | none => rw [readClassEnd_none]; rfl
    | some kind => exact absurd (not_mem_of_asciiClass? hkind) (by simp)
  · rw [hdrop, htake, hdrop']
    exact readClassEnd_paren _ negated c rest more

/-- What follows the colon before the name of a class. -/
def readMarkedName : List Char → Option (ClassItem × List Char)
  | '^' :: rest => readClassName true rest
  | text => readClassName false text

theorem readAsciiClass_colon (text : List Char) :
    readAsciiClass (':' :: text) = readMarkedName text := by
  unfold readMarkedName
  split
  · rfl
  · next h => exact readAsciiClass.eq_2 text h

theorem readAsciiClass_paren (text more : List Char) :
    readAsciiClass (text ++ ')' :: more) =
      (readAsciiClass text).map fun p => (p.1, p.2 ++ ')' :: more) := by
  cases text with
  | nil => rfl
  | cons c text =>
    by_cases hcolon : c = ':'
    · subst hcolon
      rw [List.cons_append, readAsciiClass_colon, readAsciiClass_colon]
      cases text with
      | nil => exact readClassName_paren false [] more
      | cons d text =>
        by_cases hmark : d = '^'
        · subst hmark
          exact readClassName_paren true text more
        · have hplain (s : List Char) : readMarkedName (d :: s) = readClassName false (d :: s) :=
            readMarkedName.eq_2 _ fun rest heq => hmark (List.cons.inj heq).1
          rw [List.cons_append, hplain, hplain]
          exact readClassName_paren false (d :: text) more
    · have hnone (s : List Char) : readAsciiClass (c :: s) = none :=
        readAsciiClass.eq_3 _ fun rest heq => hcolon (List.cons.inj heq).1
      rw [List.cons_append, hnone, hnone]
      rfl

theorem readAsciiClass_suffix : Advances readAsciiClass := by
  have hname (negated : Bool) : Advances (readClassName negated) := by
    intro text item rest h
    unfold readClassName readClassEnd at h
    split at h
    · next after hdrop =>
      obtain ⟨kind, -, heq⟩ := Option.map_eq_some_iff.1 h
      cases heq
      have hsuffix := hdrop ▸ List.dropWhile_suffix (l := text) (· != ':')
      exact ((List.suffix_cons ']' _).trans (List.suffix_cons ':' _)).trans hsuffix
    · cases h
  intro text item rest h
  cases text with
  | nil => cases h
  | cons c text =>
    by_cases hcolon : c = ':'
    · subst hcolon
      rw [readAsciiClass_colon] at h
      refine List.IsSuffix.trans ?_ (List.suffix_cons ':' text)
      unfold readMarkedName at h
      split at h
      · exact (hname true _ _ _ h).trans (List.suffix_cons '^' _)
      · exact hname false _ _ _ h
    · rw [readAsciiClass.eq_3 _ fun rest heq => hcolon (List.cons.inj heq).1] at h
      cases h

/-! ## Opening a set -/

theorem isLoop_readHyphens : IsLoop verbose fun items s => some (readHyphens verbose items s) where
  atEnd := by
    intro items x rest h
    rw [readHyphens] at h
    cases h
    exact ⟨rfl, fun more => by rw [readHyphens, if_neg (by decide)]⟩
  step := by
    intro items c
    by_cases hhyphen : c = '-'
    · exact .inl ⟨items ++ [.literal ⟨'-', false⟩], fun rest => by rw [readHyphens, if_pos hhyphen]⟩
    · exact .inr (.inr ⟨items, by rw [readHyphens], fun rest => by
        rw [readHyphens, if_neg hhyphen]⟩)

/-- The mark of negation, with the blanks after it. -/
def mark (text : List Char) : Bool × List Char :=
  match text with
  | '^' :: rest => (true, skip verbose rest)
  | text => (false, text)

/-- A closing bracket stands for itself where no item is before it. -/
def firstBracket (items : List ClassItem) (text : List Char) : List ClassItem × List Char :=
  match items, text with
  | [], ']' :: rest => ([.literal ⟨']', false⟩], skip verbose rest)
  | _, _ => (items, text)

/-- Nothing, from a text that does not end here. -/
def goesOn : Reading Unit
  | [] => none
  | text => some ((), text)

/-- What a set starts with: its mark of negation and the first of its items. -/
def readOpening : Reading (Bool × List ClassItem) :=
  (Reading.blank verbose).andThen fun _ =>
    Reading.andThen (fun s => some (mark verbose s)) fun negated =>
      Reading.andThen (fun s => some (readHyphens verbose [] s)) fun items =>
        Reading.andThen (fun s => some (firstBracket verbose items s)) fun items =>
          goesOn.map fun _ => (negated, items)

theorem openSet_eq (state : State) (text : List Char) : openSet verbose state text =
    (readOpening verbose text).map fun p =>
      ⟨p.2, .opened state.items p.1.1 :: state.stack, p.1.2⟩ := by
  have hend (negated : Bool) (items : List ClassItem) (rest : List Char) :
      (if rest.isEmpty then none
        else some (⟨rest, .opened state.items negated :: state.stack, items⟩ : State)) =
      ((goesOn.map fun _ => (negated, items)) rest).map fun p =>
        ⟨p.2, .opened state.items p.1.1 :: state.stack, p.1.2⟩ := by
    cases rest <;> rfl
  unfold readOpening Reading.andThen Reading.blank
  simp only [Option.bind_some, ← hend]
  unfold openSet mark firstBracket
  rfl

theorem local_mark (text : List Char) : LocalAt Never (fun s => some (mark verbose s)) text := by
  cases text with
  | nil => exact .kept false [] List.suffix_rfl rfl fun more => rfl
  | cons c rest =>
    by_cases hmark : c = '^'
    · subst hmark
      exact (local_skip true rest).cons fun s => rfl
    · have hplain (s : List Char) : mark verbose (c :: s) = (false, c :: s) :=
        mark.eq_2 _ _ fun rest heq => hmark (List.cons.inj heq).1
      exact .stop false fun more => congrArg some (hplain (rest ++ more))

theorem local_firstBracket (items : List ClassItem) (text : List Char) :
    LocalAt Never (fun s => some (firstBracket verbose items s)) text := by
  cases text with
  | nil => cases items <;> exact .kept _ [] List.suffix_rfl rfl fun more => rfl
  | cons c rest =>
    by_cases hfirst : items = [] ∧ c = ']'
    · obtain ⟨rfl, rfl⟩ := hfirst
      exact (local_skip [ClassItem.literal ⟨']', false⟩] rest).cons fun s => rfl
    · have hplain (s : List Char) : firstBracket verbose items (c :: s) = (items, c :: s) :=
        firstBracket.eq_2 _ _ _ fun rest hitems heq => hfirst ⟨hitems, (List.cons.inj heq).1⟩
      exact .stop items fun more => congrArg some (hplain (rest ++ more))

theorem local_goesOn (text : List Char) : LocalAt AtParen goesOn text := by
  cases text with
  | nil => exact .failed rfl fun more y rest h => .inr (by cases h; rfl)
  | cons c rest => exact .stop () fun more => rfl

theorem local_readOpening (text : List Char) : LocalAt AtParen (readOpening verbose) text := by
  refine (local_blank verbose text).andThen fun _ rest => ?_
  refine (local_mark verbose rest).andThen fun negated rest => ?_
  refine ((isLoop_readHyphens verbose).localAt [] rest).andThen fun items rest => ?_
  refine (local_firstBracket verbose items rest).andThen fun items rest => ?_
  exact (local_goesOn rest).map_of fun more _ rest h => h

/-! ## Steps -/

/-- What a step comes to beside the text that is left: the stack and the items of the set that is
open, or the class that has been closed. -/
abbrev Outcome : Type := (List Frame × List ClassItem) ⊕ (Bool × ClassSet)

def Progress.split : Progress → Outcome × List Char
  | .more state => (.inl (state.stack, state.items), state.rest)
  | .done negated set rest => (.inr (negated, set), rest)

/-- A step, as a reader of the text. -/
def readStep (stack : List Frame) (items : List ClassItem) : Reading Outcome :=
  fun text => (step verbose ⟨text, stack, items⟩).map Progress.split

variable (stack : List Frame) (items : List ClassItem)

theorem readStep_open (text : List Char) : readStep verbose stack items ('[' :: text) =
    match (if stack.isEmpty then none else readAsciiClass text) with
    | some (item, rest) => some (.inl (stack, items ++ [item]), rest)
    | none => Reading.map (readOpening verbose)
        (fun p => .inl (.opened items p.1 :: stack, p.2)) text := by
  unfold readStep step Reading.map
  simp only [openSet_eq]
  cases (if stack.isEmpty then none else readAsciiClass text) with
  | none =>
    simp only [Option.map_map]
    rfl
  | some p => rfl

/-- What a closing bracket ends. -/
theorem readStep_close (text : List Char) : readStep verbose stack items (']' :: text) =
    (readStep verbose stack items [']']).map fun p => (p.1, text) := by
  unfold readStep step closeSet
  simp only
  split <;> rfl

/-- The operation whose sign is a character written twice. -/
def operation? : Char → Option SetOperation
  | '&' => some .intersection
  | '-' => some .difference
  | '~' => some .symmetricDifference
  | _ => none

/-- An item of the set that is open. -/
def readMember : Reading Outcome :=
  Reading.map (readItem verbose) fun item => .inl (stack, items ++ [item])

theorem readStep_operation {c : Char} {op : SetOperation} (h : operation? c = some op)
    (text : List Char) : readStep verbose stack items (c :: c :: text) =
      some (.inl (.operation op (settle items stack).1 :: (settle items stack).2, []), text) := by
  unfold operation? at h
  split at h <;> cases h <;> rfl

theorem readStep_item {c : Char} (hopen : c ≠ '[') (hclose : c ≠ ']') {text : List Char}
    (h : text.head? = some c → operation? c = none) :
    readStep verbose stack items (c :: text) = readMember verbose stack items (c :: text) := by
  have hsign {d : Char} (hd : (operation? d).isSome) (rest : List Char) :
      c :: text ≠ d :: d :: rest := by
    rintro heq
    cases heq
    rw [h rfl] at hd
    cases hd
  unfold readStep readMember Reading.map step
  simp only
  split
  · next heq => cases heq
  · next heq => exact absurd (List.cons.inj heq).1 hopen
  · next heq => exact absurd (List.cons.inj heq).1 hclose
  · next heq => exact absurd heq (hsign rfl _)
  · next heq => exact absurd heq (hsign rfl _)
  · next heq => exact absurd heq (hsign rfl _)
  · rw [Option.map_map]
    rfl

/-- The set that is open goes on at the parenthesis. -/
def OpenAtParen (more : List Char) (x : Outcome) (rest : List Char) : Prop :=
  rest = ')' :: more ∧ x.isLeft = true

/-- A step is local after its first character. -/
theorem local_readStep (c : Char) (text : List Char) :
    LocalAt OpenAtParen (fun s => readStep verbose stack items (c :: s)) text := by
  by_cases hopen : c = '['
  · subst hopen
    have hset : LocalAt OpenAtParen (Reading.map (readOpening verbose)
        fun p => (.inl (.opened items p.1 :: stack, p.2) : Outcome)) text :=
      (local_readOpening verbose text).map_of fun more x rest h => ⟨h, rfl⟩
    have hclass (more : List Char) :
        (if stack.isEmpty then none else readAsciiClass (text ++ ')' :: more)) =
          (if stack.isEmpty then none else readAsciiClass text).map fun p =>
            (p.1, p.2 ++ ')' :: more) := by
      split
      · rfl
      · exact readAsciiClass_paren text more
    cases hascii : (if stack.isEmpty then none else readAsciiClass text) with
    | none =>
      refine hset.of_eq List.suffix_rfl ?_ fun more => ?_
      · rw [readStep_open, hascii]
      · rw [readStep_open, hclass, hascii]
        rfl
    | some p =>
      obtain ⟨item, rest⟩ := p
      have hsuffix : rest <:+ text := by
        split at hascii
        · cases hascii
        · exact readAsciiClass_suffix _ _ _ hascii
      refine .kept (.inl (stack, items ++ [item])) rest hsuffix ?_ fun more => ?_
      · rw [readStep_open, hascii]
      · rw [readStep_open, hclass, hascii]
        rfl
  by_cases hclose : c = ']'
  · subst hclose
    rw [funext (readStep_close verbose stack items)]
    cases readStep verbose stack items [']'] with
    | none => exact .none
    | some p => exact .pure p.1
  -- A sign of set operations counts as one only where it is doubled.
  by_cases hsign : text.head? = some c → operation? c = none
  · have hmember : LocalAt OpenAtParen (Reading.map (fun s => readItem verbose (c :: s))
        fun item => (.inl (stack, items ++ [item]) : Outcome)) text :=
      (local_readItem verbose c text).map_of fun more x rest h => ⟨h, rfl⟩
    refine hmember.of_eq List.suffix_rfl ?_ fun more => ?_
    · exact readStep_item verbose stack items hopen hclose hsign
    · refine readStep_item verbose stack items hopen hclose fun hhead => ?_
      cases text with
      | nil =>
        cases hhead
        rfl
      | cons d rest => exact hsign hhead
  · obtain ⟨hhead, hsome⟩ := Classical.not_imp.1 hsign
    obtain ⟨op, hop⟩ := Option.ne_none_iff_exists'.1 hsome
    obtain ⟨rest, rfl⟩ := List.head?_eq_some_iff.1 hhead
    exact (LocalAt.pure _).cons (readStep_operation verbose stack items hop)

theorem advances_readStep : Advances (readStep verbose stack items) := by
  intro text x rest h
  cases text with
  | nil => cases h
  | cons c text =>
    exact ((local_readStep verbose stack items c text).suffix h).trans (List.suffix_cons c text)

/-- Each step reads something. -/
theorem length_readStep_lt {text rest : List Char} {x : Outcome}
    (h : readStep verbose stack items text = some (x, rest)) : rest.length < text.length := by
  cases text with
  | nil => cases h
  | cons c text =>
    exact Nat.lt_succ_of_le ((local_readStep verbose stack items c text).suffix h).length_le

/-! ## Classes -/

/-- A class, as a reader of the text. -/
def readClass : Reading (Bool × ClassSet) :=
  fun text => (run verbose ⟨text, stack, items⟩).map fun p => ((p.1, p.2.1), p.2.2)

/-- What is left of a class after a step. -/
def readClassAfter : Outcome → Reading (Bool × ClassSet)
  | .inl (stack, items) => readClass verbose stack items
  | .inr set => fun text => some (set, text)

theorem readClass_eq : readClass verbose stack items =
    (Reading.blank verbose).andThen fun _ =>
      (readStep verbose stack items).andThen (readClassAfter verbose) := by
  funext text
  have hshort {x : Outcome} {rest : List Char}
      (h : readStep verbose stack items (skip verbose text) = some (x, rest)) :
      rest.length < text.length :=
    Nat.lt_of_lt_of_le (length_readStep_lt verbose stack items h) (length_skip_le verbose text)
  show _ = ((readStep verbose stack items (skip verbose text)).bind fun p =>
    readClassAfter verbose p.1 p.2)
  rw [readClass, run]
  cases hstep : step verbose ⟨skip verbose text, stack, items⟩ with
  | none => simp [readStep, hstep]
  | some progress =>
    have hread : readStep verbose stack items (skip verbose text) = some progress.split := by
      rw [readStep, hstep]
      rfl
    rw [hread]
    cases progress with
    | done negated set rest => rfl
    | more next => simp only [if_pos (hshort hread)]; rfl

theorem advances_readClass : Advances (readClass verbose stack items) := by
  intro text x rest h
  induction hlength : text.length using Nat.strongRecOn generalizing stack items text with
  | ind length ih =>
    rw [readClass_eq, Reading.andThen, Reading.blank, Option.bind_some] at h
    obtain ⟨⟨x', rest'⟩, hstep, h⟩ := Option.bind_eq_some_iff.1 h
    have hsuffix := (advances_readStep verbose stack items _ _ _ hstep).trans
      (skip_suffix verbose text)
    have hshort : rest'.length < text.length :=
      Nat.lt_of_lt_of_le (length_readStep_lt verbose stack items hstep)
        (length_skip_le verbose text)
    cases x' with
    | inl next => exact (ih rest'.length (by omega) next.1 next.2 rest' h rfl).trans hsuffix
    | inr set =>
      cases h
      exact hsuffix

theorem advances_readClassAfter (x : Outcome) : Advances (readClassAfter verbose x) := by
  cases x with
  | inl next => exact advances_readClass verbose next.1 next.2
  | inr set => exact LocalAt.advances fun text => .pure (P := Never) set

/-- What is read of a class takes in the character that it starts with, if that is no blank. -/
theorem suffix_of_readClass {c : Char} {text rest : List Char} {x : Bool × ClassSet}
    (hskip : skip verbose (c :: text) = c :: text)
    (h : readClass verbose stack items (c :: text) = some (x, rest)) : rest <:+ text := by
  rw [readClass_eq, Reading.andThen, Reading.blank, Option.bind_some, hskip] at h
  obtain ⟨⟨x', rest'⟩, hstep, h⟩ := Option.bind_eq_some_iff.1 h
  exact (advances_readClassAfter verbose x' _ _ _ h).trans
    ((local_readStep verbose stack items c text).suffix hstep)

theorem local_readClass (text : List Char) :
    LocalAt Never (readClass verbose stack items) text := by
  induction hlength : text.length using Nat.strongRecOn generalizing stack items text with
  | ind length ih =>
    have hafter : Advances ((readStep verbose stack items).andThen (readClassAfter verbose)) := by
      intro text x rest h
      obtain ⟨⟨x', rest'⟩, hstep, h⟩ := Option.bind_eq_some_iff.1 h
      exact (advances_readClassAfter verbose x' _ _ _ h).trans
        (advances_readStep verbose stack items _ _ _ hstep)
    rw [readClass_eq]
    refine (local_blank (P := Never) verbose text).bind (fun _ rest hrest => ?_)
      (fun _ => hafter) fun _ _ _ _ _ hnever => hnever.elim
    cases rest with
    | nil =>
      refine .failed rfl fun more y rest h => .inl ?_
      obtain ⟨⟨x', rest'⟩, hstep, h⟩ := Option.bind_eq_some_iff.1 h
      exact (advances_readClassAfter verbose x' _ _ _ h).trans
        ((local_readStep verbose stack items ')' more).suffix hstep)
    | cons c rest =>
      have hshort := hrest.length_le
      refine LocalAt.cons (g := Reading.andThen (fun s => readStep verbose stack items (c :: s))
        (readClassAfter verbose)) ?_ fun _ => rfl
      refine (local_readStep verbose stack items c rest).bind (fun x rest' hrest' => ?_)
        (advances_readClassAfter verbose) fun more x rest y rest' hopen h => ?_
      · have := hrest'.length_le
        cases x with
        | inl next => exact ih rest'.length (by simp at hshort; omega) next.1 next.2 rest' rfl
        | inr set => exact .pure set
      · obtain ⟨rfl, hleft⟩ := hopen
        obtain ⟨next, rfl⟩ := Sum.isLeft_iff.1 hleft
        exact .inl (suffix_of_readClass verbose next.1 next.2 (skip_cons_paren verbose more) h)

end InstanceFilter.Pattern.Bracket
