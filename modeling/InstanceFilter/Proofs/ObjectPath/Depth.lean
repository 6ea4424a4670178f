/-
How deep paths nest. Reading a path goes round a loop over its bindings, and a quoted value is read
as a path again. Both come to an end whatever is wrong with the text: each round leaves less of it,
and what is read again stood in it, quoted. Quoting doubles the double quotes and backslashes and
adds two quotes, so a text of so many of them has references inside references to the depth of the
logarithm only.

The measure is carried by one fact: the quoted form of whatever is read again is a part of the text.
The bound follows for every chain of readings, whether they succeed or not, and then for paths,
since a path of some depth was read by a chain of that length.
-/
import InstanceFilter.Proofs.ObjectPath.RoundTrip
import Mathlib.Algebra.Group.Nat.Defs

namespace InstanceFilter

/-! ## Depth -/

mutual

/-- How many references stand inside each other at a value. -/
def KeyValue.depth : KeyValue → Nat
  | .reference path => path.depth + 1
  | .text _ | .boolean _ | .integer _ => 0

/-- How many references stand inside each other in a path: none without a reference, else one more
than in the deepest path that a key refers to. -/
def ObjectPath.depth : ObjectPath → Nat
  | ⟨_, _, _, keys⟩ => depthOfKeys keys

/-- The depth of the deepest value. -/
def depthOfKeys : List KeyBinding → Nat
  | [] => 0
  | ⟨_, value⟩ :: rest => max value.depth (depthOfKeys rest)

end

theorem depth_le_depthOfKeys {keys : List KeyBinding} {b : KeyBinding} (hb : b ∈ keys) :
    b.value.depth ≤ depthOfKeys keys := by
  induction keys with
  | nil => cases hb
  | cons first rest ih =>
    obtain ⟨name, value⟩ := first
    rw [depthOfKeys]
    rcases List.mem_cons.1 hb with rfl | hb
    · exact Nat.le_max_left _ _
    · exact Nat.le_trans (ih hb) (Nat.le_max_right _ _)

theorem exists_depth_eq_depthOfKeys {keys : List KeyBinding} (h : depthOfKeys keys ≠ 0) :
    ∃ b ∈ keys, b.value.depth = depthOfKeys keys := by
  induction keys with
  | nil => exact absurd rfl h
  | cons first rest ih =>
    obtain ⟨name, value⟩ := first
    rw [depthOfKeys] at h ⊢
    by_cases hle : depthOfKeys rest ≤ value.depth
    · exact ⟨_, List.mem_cons_self, (Nat.max_eq_left hle).symm⟩
    · have hmax := Nat.max_eq_right (Nat.le_of_not_le hle)
      rw [hmax] at h ⊢
      obtain ⟨b, hb, hdepth⟩ := ih h
      exact ⟨b, List.mem_cons_of_mem _ hb, hdepth⟩

namespace ObjectPath

/-- The depth of a path is above that of every path it refers to, and one above the deepest. -/
theorem depth_spec (p : ObjectPath) :
    (∀ b ∈ p.keys, ∀ r, b.value = .reference r → r.depth < p.depth) ∧
      (p.depth = 0 ∨ ∃ b ∈ p.keys, ∃ r, b.value = .reference r ∧ p.depth = r.depth + 1) := by
  obtain ⟨host, space, className, keys⟩ := p
  constructor
  · intro b hb r hr
    have hle := depth_le_depthOfKeys hb
    rw [hr, KeyValue.depth] at hle
    exact hle
  · by_cases h : depthOfKeys keys = 0
    · exact .inl h
    · obtain ⟨⟨name, value⟩, hb, hdepth⟩ := exists_depth_eq_depthOfKeys h
      cases value with
      | reference r => exact .inr ⟨_, hb, r, rfl, hdepth.symm⟩
      | _ => exact absurd hdepth.symm h

/-! ## Double quotes and backslashes -/

/-- The number of double quotes and backslashes in a text. -/
def marks (text : List Char) : Nat := text.countP fun c => c = '\\' ∨ c = '"'

/-- Each mark of a string has a backslash before it where it is written. -/
theorem marks_escaped (s : List Char) : marks (escaped s) = 2 * marks s := by
  unfold marks
  induction s with
  | nil => rfl
  | cons c rest ih =>
    rw [escaped]
    split
    · next hmark =>
      simp only [List.countP_cons, ih, hmark]
      simp
      omega
    · next hplain =>
      simp only [List.countP_cons, ih, hplain]
      simp

theorem marks_quoted (s : List Char) : marks (quoted s) = 2 * marks s + 2 := by
  have h := marks_escaped s
  unfold marks at h ⊢
  simp only [quoted, List.cons_append, List.countP_cons, List.countP_append, List.countP_nil, h]
  simp

theorem length_lt_quoted (s : List Char) : s.length < (quoted s).length := by
  have hescaped : s.length ≤ (escaped s).length := by
    induction s with
    | nil => exact Nat.le_refl 0
    | cons c rest ih =>
      rw [escaped]
      split <;> simp only [List.length_cons] <;> omega
  simp only [quoted, List.cons_append, List.length_cons, List.length_append]
  omega

/-! ## What is read again -/

/-- Where the rounds of the loop over the bindings start: at the text of the bindings, and behind
the comma after a binding. -/
inductive Round (keyText : List Char) : List Char → Prop
  | first : Round keyText keyText
  | next {rest after : List Char} {binding : RawBinding} :
    Round keyText rest → readBinding rest = .ok (binding, ',' :: after) → Round keyText after

/-- While a text is read, a quoted value in it is read as a path: a round has come to the value, and
what follows it may still be found wrong. -/
inductive Rereads (text body : List Char) : Prop
  | intro {host : Option String} {rest keyText left after : List Char} {name : String} :
    readHost (Text.trim text) = .ok (host, rest) →
    (readClass (readNamespace rest).2).2 = some keyText → Round keyText left →
    readBinding left = .ok (⟨name, .quoted body⟩, after) → Rereads text body

/-- So many readings inside each other, from that of the first text to that of the last. -/
inductive Chain : Nat → List Char → List Char → Prop
  | nil (text : List Char) : Chain 0 text text
  | cons {n : Nat} {text body inner : List Char} :
    Rereads text body → Chain n body inner → Chain (n + 1) text inner

/-! ### Parts of the text -/

theorem suffix_of_readBinding {text after : List Char} {binding : RawBinding}
    (h : readBinding text = .ok (binding, after)) : after <:+ text := by
  obtain ⟨b, -, rfl⟩ := yields_of_readBinding h
  exact List.suffix_append _ _

theorem Round.suffix {keyText left : List Char} (h : Round keyText left) : left <:+ keyText := by
  induction h with
  | first => exact List.suffix_refl _
  | next _ hread ih =>
    exact ((List.suffix_cons _ _).trans (suffix_of_readBinding hread)).trans ih

theorem suffix_of_splitFirst? {c : Char} {text before after : List Char}
    (h : splitFirst? c text = some (before, after)) : after <:+ text := by
  obtain ⟨rfl, -⟩ := eq_of_splitFirst? h
  exact (List.suffix_cons c after).trans (List.suffix_append _ _)

theorem suffix_of_readHost {text rest : List Char} {host : Option String}
    (h : readHost text = .ok (host, rest)) : rest <:+ text := by
  unfold readHost at h
  split at h
  · next after =>
    split at h
    · next hsplit =>
      cases h
      have hslashes : after <:+ '/' :: '/' :: after := List.suffix_append ['/', '/'] after
      exact (suffix_of_splitFirst? hsplit).trans hslashes
    · cases h
  · cases h
    exact List.suffix_refl _

theorem suffix_readNamespace (text : List Char) : (readNamespace text).2 <:+ text := by
  unfold readNamespace
  split
  · next hsplit =>
    split
    · exact List.suffix_refl _
    · exact suffix_of_splitFirst? hsplit
  · exact List.suffix_refl _

theorem suffix_of_readClass {text keyText : List Char}
    (h : (readClass text).2 = some keyText) : keyText <:+ text := by
  unfold readClass at h
  split at h
  · next hsplit =>
    cases h
    exact suffix_of_splitFirst? hsplit
  · cases h

/-- What is read again stood in the text between quotes, its marks behind backslashes. -/
theorem Rereads.quoted_sublist {text body : List Char} (h : Rereads text body) :
    (quoted body).Sublist text := by
  obtain ⟨hhost, hclass, hround, hread⟩ := h
  obtain ⟨⟨label, value⟩, ⟨-, -, hvalue⟩, rfl⟩ := yields_of_readBinding hread
  cases hvalue
  have hleft := (hround.suffix.trans (suffix_of_readClass hclass)).trans
    ((suffix_readNamespace _).trans (suffix_of_readHost hhost))
  have hbinding : (quoted body).Sublist (label ++ '=' :: quoted body) :=
    (List.sublist_cons_self _ _).trans (List.sublist_append_right _ _)
  exact ((hbinding.trans (List.sublist_append_left _ _)).trans hleft.sublist).trans
    (Text.trim_sublist text)

/-! ### What a reading leaves -/

theorem Rereads.length_lt {text body : List Char} (h : Rereads text body) :
    body.length < text.length :=
  Nat.lt_of_lt_of_le (length_lt_quoted body) h.quoted_sublist.length_le

/-- Of the marks of a text, not even half are left in what is read again. -/
theorem Rereads.marks_le {text body : List Char} (h : Rereads text body) :
    2 * marks body + 2 ≤ marks text := by
  rw [← marks_quoted]
  exact h.quoted_sublist.countP_le

/-- No text is read again for ever. -/
theorem wellFounded_rereads : WellFounded fun body text : List Char => Rereads text body :=
  Subrelation.wf (fun h => h.length_lt) (measure List.length).wf

theorem Chain.marks_le {n : Nat} {text inner : List Char} (h : Chain n text inner) :
    2 ^ n * (marks inner + 2) ≤ marks text + 2 := by
  induction h with
  | nil => simp
  | cons hreads _ ih =>
    have hhalf := hreads.marks_le
    rw [pow_succ, Nat.mul_right_comm]
    omega

theorem Chain.two_pow_le {n : Nat} {text inner : List Char} (h : Chain n text inner) :
    2 ^ (n + 1) ≤ marks text + 2 := by
  have hmarks := h.marks_le
  calc 2 ^ (n + 1) = 2 ^ n * 2 := pow_succ 2 n
    _ ≤ 2 ^ n * (marks inner + 2) := Nat.mul_le_mul_left _ (Nat.le_add_left 2 _)
    _ ≤ marks text + 2 := hmarks

/-! ## What is read of an outline -/

theorem Round.trans {a b c : List Char} (hab : Round a b) (hbc : Round b c) : Round a c := by
  induction hbc with
  | first => exact hab
  | next _ hread ih => exact .next ih hread

/-- Every binding of a text is read in one of the rounds. -/
theorem exists_round_of_mem {keyText : List Char} {bindings : List RawBinding}
    (h : readBindings keyText = .ok bindings) {b : RawBinding} (hb : b ∈ bindings) :
    ∃ left after, Round keyText left ∧ readBinding left = .ok (b, after) := by
  fun_induction readBindings keyText generalizing bindings with
  | case1 => cases h
  | case2 text binding hread =>
    cases h
    rw [List.mem_singleton.1 hb]
    exact ⟨text, [], .first, hread⟩
  | case3 text binding rest hread _ ih =>
    obtain ⟨others, hothers, rfl⟩ := map_eq_ok_iff.1 h
    rcases List.mem_cons.1 hb with rfl | hb
    · exact ⟨text, _, .first, hread⟩
    · obtain ⟨left, after, hround, hleft⟩ := ih hothers hb
      exact ⟨left, after, Round.trans (.next .first hread) hround, hleft⟩
  | case4 => cases h

/-- The values of an outline are literals, or strings that the text read again. -/
theorem rereads_or_literal {text : List Char} {outline : Outline}
    (h : readOutline text = .ok outline) {b : RawBinding} (hb : b ∈ outline.bindings) :
    (∃ body, b.value = .quoted body ∧ Rereads text body) ∨
      ∃ token value, b.value = .plain value ∧ Literal token value := by
  unfold readOutline at h
  split at h
  · cases h
  obtain ⟨⟨host, rest⟩, hhost, h⟩ := bind_eq_ok_iff.1 h
  unfold readAfterHost at h
  simp only [check_eq_ok_iff] at h
  obtain ⟨-, -, h⟩ := h
  split at h
  · cases h
    cases hb
  · cases h
  · next keyText _ hclass =>
    obtain ⟨bindings, hbindings, rfl⟩ := map_eq_ok_iff.1 h
    obtain ⟨left, after, hround, hread⟩ := exists_round_of_mem hbindings hb
    obtain ⟨⟨label, text⟩, ⟨-, -, hvalue⟩, -⟩ := yields_of_readBinding hread
    obtain ⟨name, value⟩ := b
    cases hvalue with
    | quoted body => exact .inl ⟨body, rfl, .intro hhost hclass hround hread⟩
    | bare _ hliteral => exact .inr ⟨_, _, rfl, hliteral⟩

/-! ## The depth of what is read -/

/-- A reference of a path that was read comes of a reading inside that of the text. -/
theorem exists_rereads_of_reference {text : List Char} {p r : ObjectPath} {b : KeyBinding}
    (h : parseChars text = .ok p) (hb : b ∈ p.keys) (hr : b.value = .reference r) :
    ∃ body, Rereads text body ∧ parseChars body = .ok r := by
  obtain ⟨outline, houtline, rfl, -⟩ := exists_outline_of_parseChars h
  obtain ⟨raw, hraw, rfl⟩ := List.mem_map.1 (mem_sortBindings.1 hb)
  rcases rereads_or_literal houtline hraw with ⟨body, hbody, hreads⟩ | ⟨token, value, hvalue, hlit⟩
  · rw [RawBinding.reading, hbody] at hr
    have hr : quotedValue body (parseChars body) = .reference r := hr
    rcases quotedValue_cases body (parseChars body) with ⟨r', hparse, -, -, hq⟩ | ⟨-, hq⟩
    · rw [hq] at hr
      cases hr
      exact ⟨body, hreads, hparse⟩
    · rw [hq] at hr
      cases hr
  · rw [RawBinding.reading, hvalue] at hr
    have hr : value = .reference r := hr
    rw [hr] at hlit
    cases hlit

/-- A path was read by as many readings inside each other as it is deep. -/
theorem exists_chain_of_parseChars {text : List Char} {p : ObjectPath}
    (h : parseChars text = .ok p) : ∃ inner, Chain p.depth text inner := by
  induction p using induction_references generalizing text with
  | step p ih =>
    rcases (depth_spec p).2 with hzero | ⟨b, hb, r, hr, hdepth⟩
    · exact ⟨text, hzero ▸ .nil text⟩
    · obtain ⟨body, hreads, hparse⟩ := exists_rereads_of_reference h hb hr
      obtain ⟨inner, hchain⟩ := ih b hb r hr hparse
      exact ⟨inner, hdepth ▸ .cons hreads hchain⟩

/-- Reading a path ends on every text, and what it reads nests to a logarithmic depth. A round of
the loop over the bindings leaves less of the text. What is read again is shorter than the text it
stood in, so that there is no reading without end, and it covers every quoted value of an outline.
Readings stand inside each other, also in texts that are no path, only so often that a power of two
is within the quotes and backslashes, and the same bounds the depth of a path that was read. -/
theorem parse_nesting (text : String) :
    (∀ rest after binding, readBinding rest = .ok (binding, ',' :: after) →
      after.length < rest.length) ∧
    (∀ outer body, Rereads outer body → body.length < outer.length) ∧
    (WellFounded fun body outer : List Char => Rereads outer body) ∧
    (∀ outline b body, readOutline text.toList = .ok outline → b ∈ outline.bindings →
      b.value = .quoted body → Rereads text.toList body) ∧
    (∀ n inner, Chain n text.toList inner → 2 ^ (n + 1) ≤ marks text.toList + 2) ∧
    ∀ path, parse text = .ok path → 2 ^ (path.depth + 1) ≤ marks text.toList + 2 := by
  refine ⟨fun rest after binding h => ?_, fun outer body h => h.length_lt, wellFounded_rereads,
    fun outline b body h hb hbody => ?_, fun n inner h => h.two_pow_le, fun path h => ?_⟩
  · have hlength := length_readBinding h
    rw [List.length_cons] at hlength
    omega
  · rcases rereads_or_literal h hb with ⟨body', hbody', hreads⟩ | ⟨_, _, hplain, -⟩
    · rw [hbody] at hbody'
      cases hbody'
      exact hreads
    · rw [hbody] at hplain
      cases hplain
  · obtain ⟨inner, hchain⟩ := exists_chain_of_parseChars h
    exact hchain.two_pow_le

/-- Six marks are as few as a reference inside a reference can do with. -/
theorem parse_nesting_tight :
    let path : ObjectPath := ⟨none, none, "A", [⟨"b", .reference
      ⟨none, none, "C", [⟨"d", .reference ⟨none, none, "E", [⟨"f", .boolean true⟩]⟩⟩]⟩⟩]⟩
    let text := "A.b=\"C.d=\\\"E.f=TRUE\\\"\""
    parse text = .ok path ∧ path.depth = 2 ∧ marks text.toList = 6 ∧
      2 ^ (path.depth + 1) ≤ marks text.toList + 2 := by
  intro path text
  have hshaped : path.WellShaped ∧ path.Faithful := by
    refine faithful_of_single (by decide) (by decide) (List.cons_ne_nil _ _) ?_
    rintro _ ⟨⟩
    refine faithful_of_single (by decide) (by decide) (List.cons_ne_nil _ _) ?_
    rintro _ ⟨⟩
    exact faithful_of_single (by decide) (by decide) trivial nofun
  have htext : text.toList = path.render := by decide +kernel
  have hparse : parse text = .ok path := by
    unfold parse
    rw [htext]
    exact parseChars_render_of_faithful hshaped.1 hshaped.2
  obtain ⟨-, -, -, -, -, hdepth⟩ := parse_nesting text
  exact ⟨hparse, rfl, by decide +kernel, hdepth path hparse⟩

end ObjectPath

end InstanceFilter
