/-
LIKE, and the pattern as it was written. A pattern is compiled between anchors and in a group of
its own, and what is pasted around it is read with it. For most patterns this makes no difference: a
text is like the pattern if the pattern, on its own, matches all of it.

Three things make a difference. A closing parenthesis that has no group in the pattern to close ends
the group around it, so what stands after it is anchored at the end of the text alone, or not at
all; on its own such a pattern is none. A comment at the end of the pattern takes in the parenthesis
after it, and the group stays open. And the two levels of nesting that are added can be too many.
-/
import InstanceFilter.Evaluation.Comparison
import InstanceFilter.Proofs.Evaluation.Judging
import InstanceFilter.Proofs.Pattern.Enclosing
import InstanceFilter.Proofs.Pattern.Matching
import Mathlib

namespace InstanceFilter.Pattern

open Reader

/-! ## The syntax of an anchored pattern -/

namespace Reader

/-- Before anything is read. -/
def initial : State := ⟨[], false, [], [], []⟩

/-- The syntax that a state stands for, if nothing is open. -/
def State.tree? (final : State) : Option Syntax :=
  match settle final with
  | (tree, []) => some tree
  | _ => none

/-- The syntax of a text, however deep it is nested. -/
def tree? (text : List Char) : Option Syntax := (readAll initial text).bind State.tree?

theorem read?_eq (text : List Char) : Syntax.read? text =
    (tree? text).bind fun tree => if tree.depth ≤ deepest then some tree else none := by
  unfold Syntax.read? tree? readAll initial
  cases run ⟨text, false, [], [], []⟩ with
  | none => rfl
  | some final =>
    simp only [Option.bind_eq_bind, Option.bind_some, State.tree?]
    obtain ⟨tree, stack⟩ := settle final
    cases stack <;> rfl

theorem State.tree?_of_settle {final : State} {tree : Syntax} (h : settle final = (tree, [])) :
    final.tree? = some tree := by
  rw [State.tree?, h]

theorem State.tree?_eq_none {final : State} (h : (settle final).2 ≠ []) : final.tree? = none := by
  unfold State.tree?
  split
  · next heq =>
    rw [heq] at h
    exact absurd rfl h
  · rfl

/-- Nothing comes of a text that leaves a group open. -/
theorem State.tree?_of_mem {final : State} {frame : Frame} (hgroup : frame.isGroup = true)
    (hmem : frame ∈ final.stack) : final.tree? = none := by
  refine State.tree?_eq_none fun hsettled => ?_
  unfold settle at hsettled
  cases hstack : final.stack with
  | nil =>
    rw [hstack] at hmem
    cases hmem
  | cons top stack =>
    cases top with
    | group before captures flags verbose =>
      rw [hstack] at hsettled
      cases hsettled
    | alternation branches =>
      rw [hstack] at hsettled hmem
      obtain rfl : stack = [] := hsettled
      rw [List.mem_singleton] at hmem
      subst hmem
      cases hgroup

/-- The syntax of an anchored pattern, from the pattern's own. -/
def wrap (tree : Syntax) : Syntax :=
  .concat [.assertion .lineStart, .group false [] tree, .assertion .lineEnd]

/-- The group around a pattern. -/
def outerGroup : Frame := .group [.assertion .lineStart] false [] false

theorem grounded_outerGroup : Grounded [outerGroup] := grounded_of_isGroup rfl []

theorem readAll_anchored (pattern : List Char) :
    readAll initial (anchored pattern) =
      readAll (initial.above [outerGroup]) (pattern ++ ')' :: ['$']) := by
  have hanchored : anchored pattern = '^' :: '(' :: '?' :: ':' :: (pattern ++ ')' :: ['$']) := by
    simp [anchored]
  rw [hanchored, readAll_of_skip_cons initial rfl]
  exact readAll_of_skip_cons { initial with parts := [.assertion .lineStart] } rfl

/-- After the last parenthesis only the second anchor is left. -/
theorem readAll_finish (state : State) : readAll state ['$'] =
    some { state with rest := [], parts := state.parts ++ [.assertion .lineEnd] } := by
  have hskip : skip state.verbose ['$'] = '$' :: [] :=
    skip_cons (by decide +kernel) (by decide) state.verbose []
  rw [readAll_of_skip_cons state hskip]
  exact readAll_nil _

/-- The parenthesis after a pattern that has been read ends the group around it, if all groups of
the pattern are closed. -/
theorem finish_closed {final : State} {tree : Syntax} (h : settle final = (tree, [])) :
    (readAll (final.above [outerGroup]) (')' :: ['$'])).bind State.tree? = some (wrap tree) := by
  rw [readAll_of_skip_cons _ (skip_cons_paren _ ['$']), readStep_close, closed?,
    settle_above final grounded_outerGroup, h]
  show (readAll _ ['$']).bind State.tree? = some (wrap tree)
  rw [readAll_finish]
  rfl

/-- A group of the pattern that is still open is closed in its place. -/
theorem finish_open {final : State} (h : (settle final).2 ≠ []) :
    (readAll (final.above [outerGroup]) (')' :: ['$'])).bind State.tree? = none := by
  rw [readAll_of_skip_cons _ (skip_cons_paren _ ['$']), readStep_close,
    closed?_above final grounded_outerGroup h]
  cases closed? final with
  | none => rfl
  | some next =>
    show (readAll (next.above [outerGroup]) ['$']).bind State.tree? = none
    rw [readAll_finish]
    have hgroup : outerGroup.isGroup = true := rfl
    exact State.tree?_of_mem hgroup (List.mem_append_right _ List.mem_cons_self)

/-! ## Patterns that keep to their group -/

/-- A parenthesis after the text would be read as one, and would have no group to close. -/
def Exposed (text : List Char) : Prop := tree? text ≠ none ∧ tree? (text ++ [')']) = none

/-- Every closing parenthesis of the text closes a group of the text, or is none. -/
def SelfContained (text : List Char) : Prop :=
  ∀ before after, text = before ++ ')' :: after → ¬Exposed before

/-- The state above nothing is the state. -/
theorem above_nil (state : State) : state.above [] = state := by
  rw [State.above, List.append_nil]

/-- A parenthesis that has nothing to close is an error, whatever follows it. -/
theorem readAll_paren_eq_none {final : State} (h : (settle final).2 = []) (rest : List Char) :
    readAll final (')' :: rest) = none := by
  rw [readAll_of_skip_cons final (skip_cons_paren _ rest), readStep_close, closed?_eq_none final h]
  rfl

theorem exposed_of_readAll {text : List Char} {final : State}
    (htext : readAll initial text = some final) (hopen : (settle final).2 = [])
    (hparen : readAll initial (text ++ [')']) = none) : Exposed text := by
  refine ⟨?_, by rw [tree?, hparen]; rfl⟩
  rw [tree?, htext, Option.bind_some, State.tree?_of_settle (Prod.ext rfl hopen)]
  exact Option.some_ne_none _

/-- Where the parenthesis is read as one, the text is exposed if all its groups are closed. -/
theorem exposed_iff_of_kept {text : List Char} {final : State}
    (htext : readAll initial text = some final)
    (hparen : readAll initial (text ++ [')']) = readAll final [')']) :
    Exposed text ↔ (settle final).2 = [] := by
  constructor
  · rintro ⟨hread, -⟩
    refine Decidable.of_not_not fun hopen => hread ?_
    rw [tree?, htext, Option.bind_some, State.tree?_eq_none hopen]
  · intro hopen
    exact exposed_of_readAll htext hopen (hparen.trans (readAll_paren_eq_none hopen []))

theorem not_exposed_of_swallowed {text : List Char} {final : State}
    (htext : readAll initial text = some final)
    (hparen : readAll initial (text ++ [')']) = some final) : ¬Exposed text := by
  rintro ⟨hread, hnone⟩
  rw [tree?, hparen, ← htext] at hnone
  exact hread hnone

/-- Whatever follows it, a parenthesis after an exposed text makes no pattern of it. -/
theorem Exposed.tree?_eq_none {before : List Char} (h : Exposed before) (after : List Char) :
    tree? (before ++ ')' :: after) = none := by
  cases enclosing initial before with
  | kept final here there =>
    have hthere (more : List Char) := there [] more nofun
    simp only [above_nil] at hthere
    have hopen := (exposed_iff_of_kept here (hthere [])).1 h
    rw [tree?, hthere after, readAll_paren_eq_none hopen]
    rfl
  | swallowed final here there =>
    have hthere := there [] [] nofun List.not_mem_nil
    simp only [above_nil] at hthere
    exact absurd h (not_exposed_of_swallowed here hthere)
  | failed here there => exact absurd (by rw [tree?, here]; rfl) h.1
  | closes inner outer final split here opened there =>
    -- a parenthesis before it has nothing to close either, and that one ends a shorter text
    have hinner := exposed_of_readAll here opened there
    exact absurd (split ▸ hinner.tree?_eq_none outer) h.1
termination_by before.length
decreasing_by simp [split]

/-- A pattern that is one on its own keeps to its group. -/
theorem selfContained_of_tree? {text : List Char} (h : tree? text ≠ none) : SelfContained text := by
  rintro before after rfl hexposed
  exact h (hexposed.tree?_eq_none after)

/-- What comes of a pattern whose last parenthesis is read as one: its syntax wrapped, if all its
groups are closed. -/
theorem tree?_finish {final : State} {t : Syntax} :
    (readAll (final.above [outerGroup]) (')' :: ['$'])).bind State.tree? = some t ↔
      ∃ tree, final.tree? = some tree ∧ (settle final).2 = [] ∧ t = wrap tree := by
  by_cases hopen : (settle final).2 = []
  · have hsettle : settle final = ((settle final).1, []) := Prod.ext rfl hopen
    rw [finish_closed hsettle, State.tree?_of_settle hsettle, Option.some_inj]
    constructor
    · rintro rfl
      exact ⟨_, rfl, hopen, rfl⟩
    · rintro ⟨tree, htree, -, rfl⟩
      rw [Option.some.inj htree]
  · rw [finish_open hopen, State.tree?_eq_none hopen]
    exact ⟨nofun, fun ⟨_, htree, _⟩ => nomatch htree⟩

/-- The syntax of an anchored pattern is the pattern's own, wrapped, if the pattern is exposed. -/
theorem tree?_anchored_iff {pattern : List Char} (h : SelfContained pattern) {t : Syntax} :
    tree? (anchored pattern) = some t ↔
      ∃ tree, tree? pattern = some tree ∧ Exposed pattern ∧ t = wrap tree := by
  rw [tree?, readAll_anchored]
  cases enclosing initial pattern with
  | kept final here there =>
    have htree : tree? pattern = final.tree? := by rw [tree?, here]; rfl
    have hparen := there [] [] nofun
    rw [above_nil, above_nil] at hparen
    rw [there _ _ grounded_outerGroup, tree?_finish, htree, exposed_iff_of_kept here hparen]
  | swallowed final here there =>
    have hparen := there [] [] nofun List.not_mem_nil
    rw [above_nil, above_nil] at hparen
    rw [there _ _ grounded_outerGroup (by decide)]
    -- the comment has taken in the last parenthesis, so the group around the pattern stays open
    have hmem : outerGroup ∈ (final.above [outerGroup]).stack :=
      List.mem_append_right _ List.mem_cons_self
    show (final.above [outerGroup]).tree? = _ ↔ _
    rw [State.tree?_of_mem rfl hmem]
    refine ⟨nofun, ?_⟩
    rintro ⟨tree, -, hexposed, -⟩
    exact absurd hexposed (not_exposed_of_swallowed here hparen)
  | failed here there =>
    have htree : tree? pattern = none := by rw [tree?, here]; rfl
    rw [htree]
    refine ⟨fun hfinal => ?_, fun ⟨_, htree, _⟩ => nomatch htree⟩
    -- even if all of the anchored text is read, the group around the pattern is never closed
    obtain ⟨final, hread, hfinal⟩ := Option.bind_eq_some_iff.1 hfinal
    have hstack := there [outerGroup] ['$'] final grounded_outerGroup (by decide) (by decide) hread
      outerGroup List.mem_cons_self rfl
    cases (State.tree?_of_mem rfl hstack).symm.trans hfinal
  | closes before after final split here opened there =>
    exact absurd (exposed_of_readAll here opened there) (h before after split)

end Reader

/-! ## Anchored patterns compiled -/

/-- A pattern that leaves room for its anchors: it does not end in a comment, and two more levels of
nesting around it are not too many. -/
structure TakesAnchors (pattern : List Char) : Prop where
  exposed : Exposed pattern
  shallow : ∀ tree, Syntax.read? pattern = some tree → tree.depth + 2 ≤ deepest

theorem depth_wrap (tree : Syntax) : (wrap tree).depth = tree.depth + 2 := by
  simp [wrap, Syntax.depth, listDepth]

/-- The anchors and the group change nothing about the pattern between them. -/
theorem expr?_wrap (caseInsensitive : Bool) (tree : Syntax) :
    (wrap tree).expr? (.initial caseInsensitive) =
      (tree.expr? (.initial caseInsensitive)).map fun p =>
        (p.1.whole, .initial caseInsensitive) := by
  have hflags : (Flags.initial caseInsensitive).apply [] = .initial caseInsensitive := rfl
  simp only [wrap, Syntax.expr?, exprs?, Option.bind_eq_bind, Option.bind_some, hflags]
  cases tree.expr? (.initial caseInsensitive) <;> rfl

theorem read?_eq_some_iff {text : List Char} {tree : Syntax} :
    Syntax.read? text = some tree ↔ tree? text = some tree ∧ tree.depth ≤ deepest := by
  rw [read?_eq, Option.bind_eq_some_iff]
  constructor
  · rintro ⟨t, ht, hdepth⟩
    split at hdepth
    · cases hdepth
      exact ⟨ht, ‹_›⟩
    · cases hdepth
  · rintro ⟨ht, hdepth⟩
    exact ⟨tree, ht, if_pos hdepth⟩

theorem read?_anchored_iff {pattern : List Char} (h : SelfContained pattern) {t : Syntax} :
    Syntax.read? (anchored pattern) = some t ↔
      ∃ tree, Syntax.read? pattern = some tree ∧ TakesAnchors pattern ∧ t = wrap tree := by
  simp only [read?_eq_some_iff, tree?_anchored_iff h]
  constructor
  · rintro ⟨⟨tree, htree, hexposed, rfl⟩, hdepth⟩
    rw [depth_wrap] at hdepth
    refine ⟨tree, ⟨htree, Nat.le_of_add_right_le hdepth⟩, ⟨hexposed, fun tree' htree' => ?_⟩, rfl⟩
    cases (read?_eq_some_iff.1 htree').1.symm.trans htree
    exact hdepth
  · rintro ⟨tree, ⟨htree, hdepth⟩, hanchors, rfl⟩
    refine ⟨⟨tree, htree, hanchors.exposed, rfl⟩, ?_⟩
    rw [depth_wrap]
    exact hanchors.shallow tree (read?_eq_some_iff.2 ⟨htree, hdepth⟩)

theorem compile?_eq_some_iff {caseInsensitive : Bool} {text : List Char} {e : Expr} :
    compile? caseInsensitive text = some e ↔ ∃ tree flags, Syntax.read? text = some tree ∧
      tree.expr? (.initial caseInsensitive) = some (e, flags) := by
  unfold compile?
  simp only [Option.bind_eq_bind, Option.bind_eq_some_iff, Option.pure_def, Option.some_inj]
  constructor
  · rintro ⟨tree, htree, ⟨e', flags⟩, hexpr, rfl⟩
    exact ⟨tree, flags, htree, hexpr⟩
  · rintro ⟨tree, flags, htree, hexpr⟩
    exact ⟨tree, htree, (e, flags), hexpr, rfl⟩

/-- What an anchored pattern compiles to is what the pattern compiles to, between the two ends of
the text. -/
theorem compile?_anchored_iff {pattern : List Char} (h : SelfContained pattern)
    {caseInsensitive : Bool} {e : Expr} :
    compile? caseInsensitive (anchored pattern) = some e ↔
      ∃ own, compile? caseInsensitive pattern = some own ∧ TakesAnchors pattern ∧
        e = own.whole := by
  simp only [compile?_eq_some_iff, read?_anchored_iff h]
  constructor
  · rintro ⟨t, flags, ⟨tree, htree, hanchors, rfl⟩, hexpr⟩
    rw [expr?_wrap] at hexpr
    obtain ⟨⟨own, flags'⟩, hown, heq⟩ := Option.map_eq_some_iff.1 hexpr
    cases heq
    exact ⟨own, ⟨tree, flags', htree, hown⟩, hanchors, rfl⟩
  · rintro ⟨own, ⟨tree, flags, htree, hown⟩, hanchors, rfl⟩
    exact ⟨wrap tree, _, ⟨tree, htree, hanchors, rfl⟩, by rw [expr?_wrap, hown]; rfl⟩

theorem selfContained_of_compile? {caseInsensitive : Bool} {pattern : List Char} {e : Expr}
    (h : compile? caseInsensitive pattern = some e) : SelfContained pattern := by
  obtain ⟨tree, flags, htree, -⟩ := compile?_eq_some_iff.1 h
  refine selfContained_of_tree? ?_
  rw [(read?_eq_some_iff.1 htree).1]
  exact Option.some_ne_none tree

/-- A text is like a pattern that takes its anchors if the pattern on its own matches all of it. -/
theorem like?_of_compile? {limit : Nat} {caseInsensitive : Bool} {pattern : String} {e : Expr}
    (hown : compile? caseInsensitive pattern.toList = some e)
    (hanchors : TakesAnchors pattern.toList) (hsize : e.whole.fits limit = true) (text : String) :
    ∃ matched, like? limit caseInsensitive pattern text = some matched ∧
      (matched = true ↔ e.Matches text.toList.toArray 0 text.length) := by
  have hcompile : compile? caseInsensitive (anchored pattern.toList) = some e.whole :=
    (compile?_anchored_iff (selfContained_of_compile? hown)).2 ⟨e, hown, hanchors, rfl⟩
  have hwithin : compileWithin? limit caseInsensitive pattern.toList = some e.whole := by
    rw [compileWithin?, hcompile]
    exact if_pos hsize
  refine ⟨e.whole.occursIn text.toList.toArray, by rw [like?, hwithin]; rfl, ?_⟩
  rw [Expr.occursIn_whole, List.size_toArray, String.length_toList]

/-- No text is like a pattern that keeps to its group and takes no anchors, or is none on its
own. -/
theorem like?_eq_none {limit : Nat} {caseInsensitive : Bool} {pattern : String}
    (hself : SelfContained pattern.toList)
    (h : TakesAnchors pattern.toList → compile? caseInsensitive pattern.toList = none)
    (text : String) : like? limit caseInsensitive pattern text = none := by
  have hcompile : compile? caseInsensitive (anchored pattern.toList) = none := by
    rw [Option.eq_none_iff_forall_ne_some]
    intro e he
    obtain ⟨own, hown, hanchors, -⟩ := (compile?_anchored_iff hself).1 he
    cases (h hanchors).symm.trans hown
  rw [like?, compileWithin?, hcompile]
  rfl

theorem TakesAnchors.of_read? {pattern : List Char} {tree : Syntax}
    (htree : Syntax.read? pattern = some tree) (hparen : tree? (pattern ++ [')']) = none)
    (hdepth : tree.depth + 2 ≤ deepest) : TakesAnchors pattern where
  exposed := by
    refine ⟨?_, hparen⟩
    rw [(read?_eq_some_iff.1 htree).1]
    exact Option.some_ne_none tree
  shallow tree' htree' := by
    cases htree.symm.trans htree'
    exact hdepth

end InstanceFilter.Pattern

namespace InstanceFilter

open Judging Pattern Pattern.Reader

/-! ## LIKE and NOT LIKE -/

variable {settings : Settings}

/-- Between two texts LIKE is the match, and NOT LIKE its negation. -/
theorem compareValues_texts (text pattern : String) :
    compareValues settings (.compare .like) (.string text) (.string pattern) =
      matchLike settings pattern text ∧
    compareValues settings (.compare .notLike) (.string text) (.string pattern) =
      (!·) <$> matchLike settings pattern text :=
  ⟨id_map' (matchLike settings pattern text), rfl⟩

/-- LIKE and NOT LIKE go by the pattern as it is on its own. If it is one and takes the anchors,
they tell whether it matches all of the text, whatever patterns were compiled before. They report as
invalid a pattern that does not take the anchors, and one that is none on its own, unless it reaches
out of the group around it. -/
theorem compareValues_like {pattern : String}
    (hsize : ∀ e, compile? settings.caseInsensitiveLike pattern.toList = some e →
      e.whole.fits settings.patternSizeLimit.toNat = true)
    (text : String) (patterns : settings.Patterns) :
    let own := compile? settings.caseInsensitiveLike pattern.toList
    let answer := fun c =>
      (compareValues settings (.compare c) (.string text) (.string pattern)).run' patterns
    let invalid := answer .like = .error (.invalidPattern pattern) ∧
      answer .notLike = .error (.invalidPattern pattern)
    (∀ e, own = some e → TakesAnchors pattern.toList → ∃ matched,
      (matched = true ↔ e.Matches text.toList.toArray 0 text.length) ∧
      answer .like = .ok matched ∧ answer .notLike = .ok (!matched)) ∧
    (∀ e, own = some e → ¬TakesAnchors pattern.toList → invalid) ∧
    (own = none → SelfContained pattern.toList → invalid) := by
  intro own answer invalid
  have hlike : answer .like = (matchLike settings pattern text).run' patterns :=
    congrArg (·.run' patterns) (compareValues_texts text pattern).1
  have hnotLike : answer .notLike = ((matchLike settings pattern text).run' patterns).map (!·) := by
    rw [← run'_map, ← (compareValues_texts text pattern).2]
  -- what the cache answers is what the pattern comes to when it is compiled afresh
  rw [run'_matchLike] at hlike hnotLike
  have hinvalid (h : Pattern.like? settings.patternSizeLimit.toNat settings.caseInsensitiveLike
      pattern text = none) : invalid := by
    rw [h] at hlike hnotLike
    exact ⟨hlike, hnotLike⟩
  refine ⟨fun e hown hanchors => ?_, fun e hown hanchors => hinvalid ?_, fun hown hself =>
    hinvalid ?_⟩
  · obtain ⟨matched, hmatched, hiff⟩ := like?_of_compile? hown hanchors (hsize e hown) text
    rw [hmatched] at hlike hnotLike
    exact ⟨matched, hiff, hlike, hnotLike⟩
  · exact like?_eq_none (selfContained_of_compile? hown) (fun h => absurd h hanchors) text
  · exact like?_eq_none hself (fun _ => hown) text

/-- All of `abac` matches the pattern `(a|b)+c`, with the parentheses that are its own. -/
theorem compareValues_like_group :
    (∃ e, compile? false "(a|b)+c".toList = some e ∧ e.whole.fits 1048576 = true) ∧
    TakesAnchors "(a|b)+c".toList ∧
    (compareValues .default (.compare .like) (.string "abac") (.string "(a|b)+c")).run' .empty =
      .ok true ∧
    (compareValues .default (.compare .notLike) (.string "abac") (.string "(a|b)+c")).run' .empty =
      .ok false := by
  obtain ⟨tree, htree, hdepth⟩ : ∃ tree, Syntax.read? "(a|b)+c".toList = some tree ∧
      decide (tree.depth + 2 ≤ deepest) = true :=
    (Option.any_eq_true ..).1 (by cbv)
  have hanchors : TakesAnchors "(a|b)+c".toList :=
    .of_read? htree (by cbv) (of_decide_eq_true hdepth)
  obtain ⟨e, hown, hcomputed⟩ : ∃ e, compile? false "(a|b)+c".toList = some e ∧
      (e.whole.fits 1048576 && decide (4 ∈ e.ends "abac".toList.toArray [0])) = true :=
    (Option.any_eq_true ..).1 (by cbv)
  rw [Bool.and_eq_true, decide_eq_true_iff, Expr.mem_ends_iff] at hcomputed
  obtain ⟨hsize, i, hi, hmatches⟩ := hcomputed
  obtain rfl := List.mem_singleton.1 hi
  have hfits : ∀ e', compile? false "(a|b)+c".toList = some e' → e'.whole.fits 1048576 = true := by
    intro e' hown'
    cases hown.symm.trans hown'
    exact hsize
  obtain ⟨matched, hiff, hlike, hnotLike⟩ :=
    (compareValues_like hfits "abac" (Cache.empty : Settings.default.Patterns)).1 e hown hanchors
  obtain rfl : matched = true := hiff.2 hmatches
  exact ⟨⟨e, hown, hsize⟩, hanchors, hlike, hnotLike⟩

/-- The parenthesis in `a)|(b` ends the group around it: on its own the pattern is none, and yet all
that starts with an `a` is like it. -/
theorem compareValues_like_unpaired :
    compile? false "a)|(b".toList = none ∧
    (compareValues .default (.compare .like) (.string "axyz") (.string "a)|(b")).run' .empty =
      .ok true := by
  have hmatched : like? Settings.default.patternSizeLimit.toNat Settings.default.caseInsensitiveLike
      "a)|(b" "axyz" = some true := by cbv
  refine ⟨by cbv, ?_⟩
  rw [(compareValues_texts "axyz" "a)|(b").1, run'_matchLike, hmatched]

end InstanceFilter
