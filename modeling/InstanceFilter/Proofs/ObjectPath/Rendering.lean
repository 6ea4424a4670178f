/-
The text that a path writes. Its parts are those of a writing with no slash before the namespace and
no blank around a name, and if the names of the path are well spelled, this writing has the outline
of the path. So the text is read back part by part, whatever its hosts, namespaces and strings hold,
as long as no blank is trimmed off its front; of the path itself only the values can change, those
that stand in quotes.
-/
import InstanceFilter.Proofs.ObjectPath.Grammar

namespace InstanceFilter

namespace ObjectPath

/-! ## The parts of the text -/

def spaceText : Option String → List Char
  | some space => space.toList ++ [':']
  | none => []

/-- The class name and the keys. -/
def classText (p : ObjectPath) : List Char := p.className.toList ++ renderBindings '.' p.keys

/-- What follows the host. -/
def tailText (p : ObjectPath) : List Char := spaceText p.space ++ p.classText

theorem render_eq_tailText (p : ObjectPath) : p.render = hostText p.host ++ p.tailText := by
  obtain ⟨host, space, className, keys⟩ := p
  cases host <;> cases space <;> simp [render, hostText, tailText, spaceText, classText]

/-! ## Where the text starts and ends -/

theorem head_tailText_of_space {p : ObjectPath} (h : p.Spelled) {space : String}
    (hs : p.space = some space) : p.tailText.head? = space.toList.head? := by
  rw [tailText, hs, spaceText, List.append_assoc, List.head?_append,
    List.head?_eq_some_head (h.space_nonempty space hs), Option.some_or]

theorem head_tailText_of_class {p : ObjectPath} (h : p.Spelled) (hs : p.space = none) :
    p.tailText.head? = p.className.toList.head? := by
  rw [tailText, hs, spaceText, List.nil_append, classText, List.head?_append,
    List.head?_eq_some_head (Text.isIdentifier_iff.1 h.className_identifier).1, Option.some_or]

theorem head_tailText {p : ObjectPath} (h : p.Spelled) : p.tailText.head? ≠ some '/' := by
  cases hs : p.space with
  | some space =>
    rw [head_tailText_of_space h hs]
    exact h.space_unrooted space hs
  | none =>
    rw [head_tailText_of_class h hs]
    intro hc
    exact Text.not_mem_of_isIdentifier h.className_identifier (by decide) (List.mem_of_head? hc)

theorem endsInInk_renderBindings (separator : Char) {b : KeyBinding} {keys : List KeyBinding} :
    EndsInInk (renderBindings separator (b :: keys)) := by
  induction keys generalizing separator b with
  | nil =>
    obtain ⟨name, value⟩ := b
    rw [renderBindings, renderBindings, List.append_nil]
    exact ((endsInInk_render value).cons '=').append (separator :: name.toList)
  | cons k keys ih =>
    obtain ⟨name, value⟩ := b
    rw [renderBindings]
    exact (ih ',').append _

theorem endsInInk_classText {p : ObjectPath} (h : Text.isIdentifier p.className.toList = true) :
    EndsInInk p.classText := by
  cases hk : p.keys with
  | nil =>
    have htext : p.classText = p.className.toList := by simp [classText, hk, renderBindings]
    obtain ⟨hne, hchars⟩ := Text.isIdentifier_iff.1 h
    rw [htext]
    exact endsInInk_of_plain hne fun c hc => plain_of_isIdentifierChar (hchars c hc)
  | cons b keys =>
    rw [classText, hk]
    exact (endsInInk_renderBindings '.').append _

theorem endsInInk_tailText {p : ObjectPath} (h : p.Spelled) : EndsInInk p.tailText :=
  (endsInInk_classText h.className_identifier).append _

theorem head_render {p : ObjectPath} (h : p.Spelled) (ha : p.Anchored) :
    ∀ c ∈ p.render.head?, Text.isBlank c = false := by
  intro c hc
  rw [render_eq_tailText] at hc
  cases hh : p.host with
  | some host =>
    rw [hh] at hc
    cases hc
    exact Text.isBlank_eq_false (by decide)
  | none =>
    rw [hh, hostText, List.nil_append] at hc
    cases hs : p.space with
    | some space =>
      rw [head_tailText_of_space h hs] at hc
      exact ha hh space hs c hc
    | none =>
      rw [head_tailText_of_class h hs] at hc
      exact Text.isBlank_of_isIdentifierChar
        ((Text.isIdentifier_iff.1 h.className_identifier).2 c (List.mem_of_head? hc))

end ObjectPath

/-! ## The writing of a path -/

open ObjectPath

def KeyValue.written : KeyValue → ValueText
  | .text s => .quoted s.toList
  | .reference path => .quoted path.render
  | .boolean b => .bare (KeyValue.boolean b).render
  | .integer n => .bare (KeyValue.integer n).render

def KeyBinding.written (b : KeyBinding) : BindingText := ⟨b.name.toList, b.value.written⟩

theorem KeyValue.text_written (value : KeyValue) : value.written.text = value.render := by
  cases value with
  | text s => rfl
  | reference path => rfl
  | boolean b => rfl
  | integer n => rfl

/-- A token of characters that stand for themselves is the value that it is a literal of. -/
theorem yields_of_plain {token : List Char} {value : KeyValue} (hplain : ∀ c ∈ token, Plain c)
    (h : bareValue "" token = .ok value) : (ValueText.bare token).Yields (.plain value) := by
  have htrim : Text.trim token = token :=
    Text.trim_of_ends (fun c hc => (hplain c (List.mem_of_head? hc)).ink)
      (fun c hc => (hplain c (List.mem_of_getLast? hc)).ink)
  refine .bare (fun hcomma => (hplain _ hcomma).ne_comma rfl) ?_
  rw [htrim]
  exact bareValue_eq_ok_iff.1 h

theorem KeyValue.yields_written (value : KeyValue) : value.written.Yields value.raw := by
  cases value with
  | text s => exact .quoted s.toList
  | reference path => exact .quoted path.render
  | boolean b => exact yields_of_plain (fun c => plain_of_mem_boolean) (bareValue_boolean "" b)
  | integer n =>
    exact yields_of_plain (fun c => plain_of_mem_signed)
      (bareValue_of_signedNumber? "" (signedNumber?_signed n.toInt))

theorem KeyBinding.yields_written {b : KeyBinding} (h : Text.isIdentifier b.name.toList = true) :
    b.written.Yields b.raw := by
  have htrim : Text.trim b.name.toList = b.name.toList := Text.trim_of_isIdentifier h
  refine ⟨?_, ?_, b.value.yields_written⟩
  · rwa [written, htrim]
  · rw [written, BindingText.name, htrim, String.ofList_toList]
    rfl

namespace ObjectPath

def written (p : ObjectPath) : Writing :=
  ⟨p.host, p.space.map fun space => (0, space), p.className, p.keys.map KeyBinding.written⟩

/-- The outline of a path's text. -/
def outline (p : ObjectPath) : Outline := ⟨p.host, p.space, p.className, p.keys.map KeyBinding.raw⟩

theorem bindingsText_written (separator : Char) (keys : List KeyBinding) :
    bindingsText separator (keys.map KeyBinding.written) = renderBindings separator keys := by
  induction keys generalizing separator with
  | nil => rfl
  | cons b keys ih =>
    obtain ⟨name, value⟩ := b
    rw [List.map_cons, bindingsText, renderBindings, ih, BindingText.text, KeyBinding.written,
      value.text_written]
    simp

theorem tail_written (p : ObjectPath) : p.written.tail = p.tailText := by
  have hclass : p.written.classText = p.classText := by
    rw [Writing.classText, classText, written, bindingsText_written]
  have hspace : slashedText p.written.space = spaceText p.space := by
    cases hs : p.space <;> simp [written, hs, slashedText, spaceText]
  rw [Writing.tail, tailText, hclass, hspace]

theorem text_written (p : ObjectPath) : p.written.text = p.render := by
  rw [Writing.text, tail_written, render_eq_tailText]
  rfl

variable {p : ObjectPath}

theorem space?_written (h : p.Spelled) : p.written.space? = p.space := by
  cases hs : p.space with
  | none => rw [Writing.space?, written, hs]; rfl
  | some space =>
    have hne : space ≠ "" := mt String.toList_eq_nil_iff.2 (h.space_nonempty space hs)
    rw [Writing.space?, written, hs]
    exact if_neg hne

theorem headed_written (h : p.Spelled) : p.written.Headed := by
  have hspace {n : Nat} {space : String} (hs : p.written.space = some (n, space)) :
      p.space = some space := by
    obtain ⟨s, hs, heq⟩ := Option.map_eq_some_iff.1 hs
    cases heq
    exact hs
  have hosted : p.host ≠ none ↔ ['/', '/'] <+: p.written.text := by
    rw [text_written, render_eq_tailText]
    cases hh : p.host with
    | some host => exact iff_of_true (Option.some_ne_none host) ⟨host.toList ++ '/' :: p.tailText,
        by simp [hostText]⟩
    | none =>
      -- neither a namespace nor a class name starts with a slash, let alone with two
      refine iff_of_false (fun hne => hne rfl) ?_
      rintro ⟨rest, hrest⟩
      exact head_tailText h (congrArg List.head? hrest).symm
  exact {
    host_located := fun hhost => by rw [space?_written h]; exact h.host_located hhost
    space_unrooted := fun _ space hs => h.space_unrooted space (hspace hs)
    space_colonless := fun _ space hs => h.space_colonless space (hspace hs)
    space_pointless := fun _ space hs => h.space_pointless space (hspace hs)
    className_identifier := h.className_identifier
    hosted := hosted
    host_slashless := h.host_slashless }

theorem yields_written (h : p.Spelled) : p.written.Yields p.outline where
  host_eq := rfl
  space_eq := (space?_written h).symm
  className_eq := rfl
  bindings_yield := by
    rw [written, outline, List.forall₂_map_left_iff, List.forall₂_map_right_iff, List.forall₂_same]
    exact fun b hb => KeyBinding.yields_written (h.keys_identifiers b hb)

/-- A path whose text starts with no blank is found again part by part. -/
theorem readOutline_render (h : p.Spelled) (ha : p.Anchored) :
    readOutline p.render = .ok p.outline := by
  have hink : EndsInInk p.render := by
    rw [render_eq_tailText]
    exact (endsInInk_tailText h).append _
  have htrim : Text.trim p.render = p.render := Text.trim_of_ends (head_render h ha) hink.last
  refine Writing.readOutline_eq_ok_iff.2 ⟨p.written, headed_written h, ?_, yields_written h⟩
  rw [htrim, text_written]

end ObjectPath

end InstanceFilter
