/-
How far a reader of a pattern looks. Take a text that ends, and the same text with a closing
parenthesis and more after it. A part that is read from the one is read from the other, and what was
left to read is left with the parenthesis after it; unless the text ended in a comment, which then
takes the parenthesis in with the rest of its line. A part that is not read from the one is read
from the other past the parenthesis only, or not at all.

This is shown reader by reader: for what is read character by character by one lemma about such
loops, and for the others by what a sequence inherits from its parts.
-/
import InstanceFilter.Pattern.Atom

namespace InstanceFilter.Pattern

variable {α β : Type}

/-- What reads a part at the start of a text, and gives it with the text after it. -/
abbrev Reading (α : Type) : Type := List Char → Option (α × List Char)

namespace Reading

/-- One reader after another, which is told what the first one read. -/
def andThen (f : Reading α) (g : α → Reading β) : Reading β :=
  fun text => (f text).bind fun p => g p.1 p.2

/-- What is read is made into something else, or turned down. -/
def filterMap (f : Reading α) (g : α → Option β) : Reading β :=
  fun text => (f text).bind fun p => (g p.1).map fun y => (y, p.2)

def map (f : Reading α) (g : α → β) : Reading β :=
  fun text => (f text).map fun p => (g p.1, p.2)

/-- Blanks and comments, in a verbose pattern. -/
def blank (verbose : Bool) : Reading Unit := fun text => some ((), skip verbose text)

/-- Blanks, in any pattern. -/
def trim : Reading Unit := fun text => some ((), Text.trimLeft text)

end Reading

/-! ## Locality -/

/-- What a reader makes of a text that ends there, and what it makes of it with a parenthesis and
more after it. A reader may do more with the longer text than is said here if `P` allows for it. -/
inductive LocalAt (P : List Char → α → List Char → Prop) (f : Reading α) (text : List Char) :
    Prop
  | kept (x : α) (rest : List Char) (suffix : rest <:+ text) (here : f text = some (x, rest))
      (there : ∀ more, f (text ++ ')' :: more) = some (x, rest ++ ')' :: more))
  /-- A comment at the end of the text takes in the parenthesis and its line. -/
  | swallowed (x : α) (here : f text = some (x, []))
      (line : ∀ more, '\n' ∉ more → f (text ++ ')' :: more) = some (x, []))
      (past : ∀ more y rest, f (text ++ ')' :: more) = some (y, rest) → rest <:+ more)
  | failed (here : f text = none)
      (past : ∀ more y rest, f (text ++ ')' :: more) = some (y, rest) →
        rest <:+ more ∨ P more y rest)

/-- Nothing more is allowed. -/
def Never (_ : List Char) (_ : α) (_ : List Char) : Prop := False

/-- What is left to read is the end of what there was. -/
def Advances (f : Reading α) : Prop :=
  ∀ text x rest, f text = some (x, rest) → rest <:+ text

namespace LocalAt

variable {P : List Char → α → List Char → Prop} {Q : List Char → β → List Char → Prop}
  {f : Reading α} {text : List Char}

theorem suffix (h : LocalAt P f text) {x : α} {rest : List Char} (hf : f text = some (x, rest)) :
    rest <:+ text := by
  cases h with
  | kept y rest' hsuffix here there =>
    cases here.symm.trans hf
    exact hsuffix
  | swallowed y here line past =>
    cases here.symm.trans hf
    exact List.nil_suffix
  | failed here past => cases here.symm.trans hf

theorem advances (h : ∀ text, LocalAt P f text) : Advances f := fun text _ _ => (h text).suffix

/-- What two readers make of two texts is the same, also with a parenthesis after them. -/
theorem of_eq {g : Reading α} {text' : List Char} (hg : LocalAt P g text')
    (hsuffix : text' <:+ text)
    (hhere : f text = g text')
    (hthere : ∀ more, f (text ++ ')' :: more) = g (text' ++ ')' :: more)) : LocalAt P f text := by
  cases hg with
  | kept x rest hsuffix' here there =>
    exact .kept x rest (hsuffix'.trans hsuffix) (hhere.trans here)
      fun more => (hthere more).trans (there more)
  | swallowed x here line past =>
    exact .swallowed x (hhere.trans here) (fun more hmore => (hthere more).trans (line more hmore))
      fun more y rest hy => past more y rest ((hthere more).symm.trans hy)
  | failed here past =>
    exact .failed (hhere.trans here)
      fun more y rest hy => past more y rest ((hthere more).symm.trans hy)

/-- After its first character, a text is read by another reader. -/
theorem cons {c : Char} {g : Reading α} (hg : LocalAt P g text) (h : ∀ s, f (c :: s) = g s) :
    LocalAt P f (c :: text) :=
  hg.of_eq (List.suffix_cons c text) (h text) fun more => h (text ++ ')' :: more)

/-- A text that starts with some character is read by another reader. -/
theorem congr {c : Char} {g : Reading α} (hg : LocalAt P g (c :: text))
    (h : ∀ s, f (c :: s) = g (c :: s)) : LocalAt P f (c :: text) :=
  hg.of_eq List.suffix_rfl (h text) fun more => h (text ++ ')' :: more)

/-- What reads the first character of a text is local after it. -/
theorem tail {c : Char} (h : LocalAt P f (c :: text))
    (hread : ∀ x rest, f (c :: text) = some (x, rest) → rest <:+ text) :
    LocalAt P (fun s => f (c :: s)) text := by
  cases h with
  | kept x rest hsuffix here there => exact .kept x rest (hread x rest here) here there
  | swallowed x here line past => exact .swallowed x here line past
  | failed here past => exact .failed here past

/-- Nothing is read, whatever follows. -/
theorem stop (x : α) (h : ∀ more, f (text ++ more) = some (x, text ++ more)) :
    LocalAt P f text := by
  have here : f text = some (x, text) := by simpa using h []
  exact .kept x text List.suffix_rfl here fun more => h (')' :: more)

theorem pure (x : α) : LocalAt P (fun s => some (x, s)) text :=
  .kept x text List.suffix_rfl rfl fun _ => rfl

theorem none : LocalAt P (fun _ => none) text :=
  .failed rfl fun _ _ _ h => nomatch h

/-- What is allowed may be more. -/
theorem mono {R : List Char → α → List Char → Prop} (h : LocalAt P f text)
    (hallow : ∀ more x rest, P more x rest → rest <:+ more ∨ R more x rest) :
    LocalAt R f text := by
  cases h with
  | kept x rest hsuffix here there => exact .kept x rest hsuffix here there
  | swallowed x here line past => exact .swallowed x here line past
  | failed here past =>
    refine .failed here fun more y rest h => ?_
    obtain hpast | hallowed := past more y rest h
    · exact .inl hpast
    · exact hallow more y rest hallowed

theorem of_never (h : LocalAt Never f text) : LocalAt P f text := h.mono fun _ _ _ => False.elim

/-- A sequence inherits locality, as far as the second reader keeps within what is allowed where
the first one does more. -/
theorem bind {g : α → Reading β} (hf : LocalAt P f text)
    (hg : ∀ x rest, rest <:+ text → LocalAt Q (g x) rest) (hadvance : ∀ x, Advances (g x))
    (hallow : ∀ more x rest y rest', P more x rest → g x rest = some (y, rest') →
      rest' <:+ more ∨ Q more y rest') :
    LocalAt Q (f.andThen g) text := by
  -- What the first reader read past the parenthesis, the second leaves past it.
  have hpast {more : List Char} {y : β} {rest' : List Char}
      (hfirst : ∀ x rest, f (text ++ ')' :: more) = some (x, rest) →
        rest <:+ more ∨ P more x rest)
      (h : f.andThen g (text ++ ')' :: more) = some (y, rest')) :
      rest' <:+ more ∨ Q more y rest' := by
    obtain ⟨⟨x, rest⟩, hx, hy⟩ := Option.bind_eq_some_iff.1 h
    obtain hrest | hallowed := hfirst x rest hx
    · exact .inl ((hadvance x rest y rest' hy).trans hrest)
    · exact hallow more x rest y rest' hallowed hy
  cases hf with
  | kept x rest hsuffix here there =>
    have hhere : f.andThen g text = g x rest := by rw [Reading.andThen, here]; rfl
    have hthere (more : List Char) :
        f.andThen g (text ++ ')' :: more) = g x (rest ++ ')' :: more) := by
      rw [Reading.andThen, there more]
      rfl
    cases hg x rest hsuffix with
    | kept y rest' hsuffix' here' there' =>
      exact .kept y rest' (hsuffix'.trans hsuffix) (hhere.trans here')
        fun more => (hthere more).trans (there' more)
    | swallowed y here' line' past' =>
      exact .swallowed y (hhere.trans here')
        (fun more hmore => (hthere more).trans (line' more hmore))
        fun more z rest' h => past' more z rest' ((hthere more).symm.trans h)
    | failed here' past' =>
      exact .failed (hhere.trans here')
        fun more z rest' h => past' more z rest' ((hthere more).symm.trans h)
  | swallowed x here line past =>
    have hhere : f.andThen g text = g x [] := by rw [Reading.andThen, here]; rfl
    have hbeyond (more : List Char) (y : β) (rest' : List Char)
        (h : f.andThen g (text ++ ')' :: more) = some (y, rest')) :
        rest' <:+ more := by
      obtain ⟨⟨x', rest⟩, hx, hy⟩ := Option.bind_eq_some_iff.1 h
      exact (hadvance x' rest y rest' hy).trans (past more x' rest hx)
    cases hy : g x [] with
    | none => exact .failed (hhere.trans hy) fun more y rest' h => .inl (hbeyond more y rest' h)
    | some p =>
      obtain ⟨y, rest'⟩ := p
      obtain rfl : rest' = [] := List.suffix_nil.1 (hadvance x [] y rest' hy)
      refine .swallowed y (hhere.trans hy) (fun more hmore => ?_) hbeyond
      rw [Reading.andThen, line more hmore]
      exact hy
  | failed here past =>
    have hhere : f.andThen g text = Option.none := by rw [Reading.andThen, here]; rfl
    exact .failed hhere fun more y rest' h => hpast (past more) h

/-- A sequence whose first reader does no more than is said of it. -/
theorem andThen {g : α → Reading β} (hf : LocalAt Never f text)
    (hg : ∀ x rest, LocalAt Q (g x) rest) : LocalAt Q (f.andThen g) text :=
  hf.bind (fun x rest _ => hg x rest) (fun x => advances (hg x)) fun _ _ _ _ _ h => h.elim

theorem filterMap_of {g : α → Option β} (h : LocalAt P f text)
    (hallow : ∀ more x rest y, P more x rest → g x = some y → Q more y rest) :
    LocalAt Q (f.filterMap g) text := by
  have hg (x : α) (rest : List Char) :
      LocalAt Q (fun s => (g x).map fun y => (y, s)) rest := by
    cases g x with
    | none => exact .none
    | some y => exact .pure y
  refine h.bind (g := fun x s => (g x).map fun y => (y, s)) (fun x rest _ => hg x rest)
    (fun x => advances (hg x)) fun more x rest y rest' hP hy => .inr ?_
  obtain ⟨y', hy', heq⟩ := Option.map_eq_some_iff.1 hy
  cases heq
  exact hallow more x rest y hP hy'

theorem filterMap (h : LocalAt Never f text) (g : α → Option β) :
    LocalAt Q (f.filterMap g) text :=
  h.filterMap_of fun _ _ _ _ hnever _ => hnever.elim

theorem map_of {g : α → β} (h : LocalAt P f text)
    (hallow : ∀ more x rest, P more x rest → Q more (g x) rest) : LocalAt Q (f.map g) text := by
  have heq : f.map g = f.filterMap fun x => some (g x) := by
    funext s
    unfold Reading.map Reading.filterMap
    cases f s <;> rfl
  rw [heq]
  refine h.filterMap_of fun more x rest y hP hy => ?_
  cases hy
  exact hallow more x rest hP

theorem map (h : LocalAt Never f text) (g : α → β) : LocalAt Q (f.map g) text :=
  h.map_of fun _ _ _ hnever => hnever.elim

end LocalAt

/-! ## Blanks -/

mutual

theorem skipSpace_suffix : ∀ text, skipSpace text <:+ text
  | [] => List.suffix_rfl
  | c :: rest => by
    simp only [skipSpace]
    split
    · exact (skipSpace_suffix rest).trans (List.suffix_cons c rest)
    · split
      · exact (skipComment_suffix rest).trans (List.suffix_cons c rest)
      · exact List.suffix_rfl

theorem skipComment_suffix : ∀ text, skipComment text <:+ text
  | [] => List.suffix_rfl
  | c :: rest => by
    simp only [skipComment]
    split
    · exact (skipSpace_suffix rest).trans (List.suffix_cons c rest)
    · exact (skipComment_suffix rest).trans (List.suffix_cons c rest)

end

theorem skipComment_line : ∀ {text : List Char}, '\n' ∉ text → skipComment text = []
  | [], _ => rfl
  | c :: rest, h => by
    have hc : c ≠ '\n' := fun hc => h (hc ▸ List.mem_cons_self)
    rw [skipComment, if_neg hc]
    exact skipComment_line fun hrest => h (List.mem_cons_of_mem c hrest)

theorem isBlank_paren : Text.isBlank ')' = false := by decide +kernel

mutual

theorem local_skipSpace {P : List Char → Unit → List Char → Prop} :
    ∀ text, LocalAt P (fun s => some ((), skipSpace s)) text
  | [] => .kept () [] List.suffix_rfl rfl fun more => by
    simp [skipSpace, isBlank_paren]
  | c :: rest => by
    by_cases hblank : Text.isBlank c = true
    · exact (local_skipSpace rest).cons fun s => by rw [skipSpace, if_pos hblank]
    · by_cases hcomment : c = '#'
      · exact (local_skipComment rest).cons fun s => by
          rw [skipSpace, if_neg hblank, if_pos hcomment]
      · exact .stop () fun more => by
          rw [List.cons_append, skipSpace, if_neg hblank, if_neg hcomment]

theorem local_skipComment {P : List Char → Unit → List Char → Prop} :
    ∀ text, LocalAt P (fun s => some ((), skipComment s)) text
  | [] => .swallowed () rfl
    (fun more hmore => by rw [List.nil_append, skipComment_line (by simp [hmore])])
    fun more y rest h => by
      cases h
      exact skipComment_suffix more
  | c :: rest => by
    by_cases hline : c = '\n'
    · exact (local_skipSpace rest).cons fun s => by rw [skipComment, if_pos hline]
    · exact (local_skipComment rest).cons fun s => by rw [skipComment, if_neg hline]

end

theorem local_blank {P : List Char → Unit → List Char → Prop} (verbose : Bool)
    (text : List Char) : LocalAt P (Reading.blank verbose) text := by
  cases verbose with
  | false => exact .pure ()
  | true => exact local_skipSpace text

theorem local_skip {P : List Char → β → List Char → Prop} {verbose : Bool} (x : β)
    (text : List Char) : LocalAt P (fun s => some (x, skip verbose s)) text :=
  (local_blank verbose text).map fun _ => x

/-- Passing over blanks keeps the parenthesis, unless they end in a comment. -/
theorem skip_paren (verbose : Bool) (text : List Char) :
    (∀ more, skip verbose (text ++ ')' :: more) = skip verbose text ++ ')' :: more) ∨
    (skip verbose text = [] ∧ (∀ more, '\n' ∉ more → skip verbose (text ++ ')' :: more) = []) ∧
      ∀ more, skip verbose (text ++ ')' :: more) <:+ more) := by
  cases local_blank (P := Never) verbose text with
  | kept x rest suffix here there =>
    cases here
    exact .inl fun more => congrArg Prod.snd (Option.some.inj (there more))
  | swallowed x here line past =>
    exact .inr ⟨congrArg Prod.snd (Option.some.inj here),
      fun more hmore => congrArg Prod.snd (Option.some.inj (line more hmore)),
      fun more => past more () _ rfl⟩
  | failed here past => cases here

/-- A character that is no blank and starts no comment is not passed over. -/
theorem skip_cons {c : Char} (hblank : Text.isBlank c = false) (hcomment : c ≠ '#')
    (verbose : Bool) (text : List Char) : skip verbose (c :: text) = c :: text := by
  cases verbose <;> simp [skip, skipSpace, hblank, hcomment]

theorem skip_cons_paren (verbose : Bool) (text : List Char) :
    skip verbose (')' :: text) = ')' :: text := skip_cons isBlank_paren (by decide) verbose text

theorem skip_suffix (verbose : Bool) (text : List Char) : skip verbose text <:+ text :=
  (local_blank (P := Never) verbose text).suffix rfl

theorem local_trim {P : List Char → Unit → List Char → Prop} (text : List Char) :
    LocalAt P Reading.trim text := by
  induction text with
  | nil =>
    refine .kept () [] List.suffix_rfl rfl fun more => ?_
    rw [List.nil_append, Reading.trim, Text.trimLeft,
      List.dropWhile_cons_of_neg (by simp [isBlank_paren])]
  | cons c rest ih =>
    by_cases hblank : Text.isBlank c = true
    · exact ih.cons fun s => by
        rw [Reading.trim, Text.trimLeft, List.dropWhile_cons_of_pos hblank]
        rfl
    · exact .stop () fun more => by
        rw [List.cons_append, Reading.trim, Text.trimLeft, List.dropWhile_cons_of_neg hblank]

/-! ## Reading up to a character -/

/-- What stands before a character that the text has is the same with a parenthesis after the text;
without that character, the parenthesis is part of it. -/
theorem takeWhile_paren {p : Char → Bool} (hparen : p ')' = true) (text more : List Char) :
    (text.dropWhile p = [] ∧
      (text ++ ')' :: more).takeWhile p = text ++ ')' :: more.takeWhile p) ∨
    ∃ c rest, text.dropWhile p = c :: rest ∧
      (text ++ ')' :: more).takeWhile p = text.takeWhile p ∧
      (text ++ ')' :: more).dropWhile p = c :: (rest ++ ')' :: more) := by
  have hsplit := congrArg List.length (List.takeWhile_append_dropWhile (p := p) (l := text))
  rw [List.takeWhile_append, List.dropWhile_append]
  cases hdrop : text.dropWhile p with
  | nil =>
    rw [hdrop, List.length_append, List.length_nil, Nat.add_zero] at hsplit
    exact .inl ⟨rfl, by rw [if_pos hsplit, List.takeWhile_cons_of_pos hparen]⟩
  | cons c rest =>
    rw [hdrop, List.length_append, List.length_cons] at hsplit
    exact .inr ⟨c, rest, rfl, if_neg (by omega), if_neg (by simp)⟩

/-! ## Reading character by character -/

/-- A reader that takes a character, passes over the blanks after it and goes on with what it then
has, until a character ends it. That character may be part of what is read, or be left unread as the
end of the text is. -/
structure IsLoop {σ : Type} (verbose : Bool) (f : σ → Reading α) : Prop where
  atEnd : ∀ s x rest, f s [] = some (x, rest) →
    rest = [] ∧ ∀ more, f s (')' :: more) = some (x, ')' :: more)
  step : ∀ s c, (∃ s', ∀ rest, f s (c :: rest) = f s' (skip verbose rest)) ∨
    (∃ g : Reading α, (∀ rest, f s (c :: rest) = g rest) ∧ ∀ rest, LocalAt Never g rest) ∨
    ∃ x, f s [] = some (x, []) ∧ ∀ rest, f s (c :: rest) = some (x, c :: rest)

namespace IsLoop

variable {σ : Type} {verbose : Bool} {f : σ → Reading α}

theorem advances (h : IsLoop verbose f) (s : σ) : Advances (f s)
  | [], x, rest, hf => by
    obtain rfl := (h.atEnd s x rest hf).1
    exact List.suffix_rfl
  | c :: text, x, rest, hf => by
    obtain ⟨s', hskip⟩ | ⟨g, hg, hread⟩ | ⟨y, -, hstop⟩ := h.step s c
    · have hshort := length_skip_le verbose text
      have hrest := h.advances s' (skip verbose text) x rest ((hskip text).symm.trans hf)
      exact hrest.trans ((skip_suffix verbose text).trans (List.suffix_cons c text))
    · exact ((hread text).suffix ((hg text).symm.trans hf)).trans (List.suffix_cons c text)
    · cases (hstop text).symm.trans hf
      exact List.suffix_rfl
termination_by text => text.length
decreasing_by simp only [List.length_cons]; omega

theorem localAt (h : IsLoop verbose f) (s : σ) : ∀ text, LocalAt Never (f s) text
  | [] => by
    cases hend : f s [] with
    | some p =>
      obtain ⟨x, rest⟩ := p
      obtain ⟨rfl, hparen⟩ := h.atEnd s x rest hend
      exact .kept x [] List.suffix_rfl hend hparen
    | none =>
      refine .failed hend fun more y rest hf => .inl ?_
      obtain ⟨s', hskip⟩ | ⟨g, hg, hread⟩ | ⟨x, hx, -⟩ := h.step s ')'
      · exact (h.advances s' _ y rest ((hskip more).symm.trans hf)).trans (skip_suffix verbose more)
      · exact (hread more).suffix ((hg more).symm.trans hf)
      · cases hend.symm.trans hx
  | c :: text => by
    obtain ⟨s', hskip⟩ | ⟨g, hg, hread⟩ | ⟨x, -, hstop⟩ := h.step s c
    · have hrest : LocalAt Never ((Reading.blank verbose).andThen fun _ => f s') text := by
        refine (local_blank (P := Never) verbose text).bind (fun _ rest hrest => ?_)
          (fun _ => h.advances s') fun _ _ _ _ _ hnever => hnever.elim
        have hshort := hrest.length_le
        exact h.localAt s' rest
      exact hrest.cons hskip
    · exact (hread text).cons hg
    · exact .stop x fun more => hstop (text ++ more)
termination_by text => text.length
decreasing_by simp only [List.length_cons]; omega

end IsLoop

end InstanceFilter.Pattern
