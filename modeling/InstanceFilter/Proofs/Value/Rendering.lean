/-
What the text of a value tells of it. The type stands before the first colon, so it is always told.
The payload is told where each item can be told from its text and its end can be seen: a number
and a truth value have neither a comma nor a brace in their text, all date-times are of one length,
and a quoted text is read in one way only. Then lists of such items are told apart as well, whatever
the texts in them hold. Of a date-time no more is told than its whole microseconds, since no more is
written.
-/
import InstanceFilter.Value.Printer
import InstanceFilter.Proofs.DateTime.RoundTrip
import InstanceFilter.Proofs.ObjectPath.Values
import InstanceFilter.Proofs.Text.Quoted
import InstanceFilter.Proofs.Value.Precision

namespace InstanceFilter

/-! ## The type -/

/-- The marks that end a type, and that set an array apart from its elements, are in no label. -/
theorem Kind.unmarked_label (kind : Kind) : ∀ c ∈ kind.label.toList, c ≠ ':' ∧ c ≠ '[' := by
  cases kind <;> simp [label]

theorem Kind.label_inj {kind other : Kind} (h : kind.label = other.label) : kind = other := by
  cases kind <;> cases other <;> first | rfl | exact absurd h (by decide)

theorem ValueType.toList_name (type : ValueType) :
    type.name.toList = type.kind.label.toList ++ if type.isArray then ['[', ']'] else [] := by
  rw [name]
  split
  · exact String.toList_append
  · exact (List.append_nil _).symm

theorem ValueType.colon_notMem_name (type : ValueType) : ∀ c ∈ type.name.toList, c ≠ ':' := by
  intro c h
  rw [toList_name] at h
  rcases List.mem_append.1 h with h | h
  · exact (type.kind.unmarked_label c h).1
  · split at h
    · rintro rfl
      exact absurd h (by decide)
    · cases h

theorem ValueType.name_inj {type other : ValueType} (h : type.name = other.name) :
    type = other := by
  -- followed by a bracket or by nothing, the label ends at the first bracket or at the end
  have hmark {label label' : String} : label.toList = label'.toList ++ ['[', ']'] →
      ¬ ∀ c ∈ label.toList, c ≠ ':' ∧ c ≠ '[' :=
    fun heq hplain => (hplain '[' (by simp [heq])).2 rfl
  obtain ⟨kind, isArray⟩ := type
  obtain ⟨kind', isArray'⟩ := other
  have hlist := congrArg String.toList h
  rw [toList_name, toList_name] at hlist
  cases isArray <;> cases isArray' <;>
    simp only [if_true, if_false, Bool.false_eq_true, List.append_nil] at hlist
  · rw [Kind.label_inj (String.toList_inj.1 hlist)]
  · exact absurd kind.unmarked_label (hmark hlist)
  · exact absurd kind'.unmarked_label (hmark hlist.symm)
  · rw [Kind.label_inj (String.toList_inj.1 (List.append_cancel_right hlist))]

namespace Value

/-- The text of a value after its type. -/
def body : Value → List Char
  | .null => "NULL".toList
  | .integer n => Text.signed n.toInt
  | .double x => Value.doubleLayout.double x
  | .boolean b => (toString b).toList
  | .string s => Text.quote s.toList
  | .dateTime d => d.render
  | .reference path => path.render
  | .property ref => ref.render
  | .array items => items.render

theorem render_eq (v : Value) : v.render = v.type.name.toList ++ ':' :: ' ' :: v.body := by
  unfold render
  cases v <;> simp [body, type, kind, isArray, Kind.array, ValueType.name, Kind.label]

/-- Values of the same text have the same type and the same text after it. -/
theorem of_render_eq {v w : Value} (h : v.render = w.render) :
    v.type = w.type ∧ v.body = w.body := by
  rw [render_eq, render_eq] at h
  obtain ⟨hname, hbody⟩ := Text.append_inj_of_stop (· = ':') v.type.colon_notMem_name
    w.type.colon_notMem_name rfl rfl h
  exact ⟨ValueType.name_inj (String.toList_inj.1 hname),
    List.tail_eq_of_cons_eq (List.tail_eq_of_cons_eq hbody)⟩

end Value

/-! ## Date-times in whole microseconds -/

theorem ArrayValue.kind_cut (items : ArrayValue) : items.cut.kind = items.kind := by
  cases items <;> rfl

theorem ArrayValue.render_cut (items : ArrayValue) : items.cut.render = items.render := by
  cases items with
  | dateTime items =>
    have hitems : (items.map DateTime.cut).map DateTime.render = items.map DateTime.render := by
      rw [List.map_map]
      exact List.map_congr_left fun d _ => d.render_cut
    rw [cut, render, render, renderList, renderList, hitems]
  | _ => rfl

mutual

/-- What is finer than a microsecond is not written. -/
theorem Value.render_cut (v : Value) : v.cut.render = v.render := by
  cases v with
  | dateTime d => exact congrArg ("DateTime: ".toList ++ ·) d.render_cut
  | property ref => exact congrArg ("PropertyName: ".toList ++ ·) ref.render_cut
  | array items =>
    show items.cut.kind.array.name.toList ++ ": ".toList ++ items.cut.render = _
    rw [items.kind_cut, items.render_cut]
    rfl
  | _ => rfl

theorem PropertyRef.render_cut (ref : PropertyRef) : ref.cut.render = ref.render := by
  obtain ⟨name, index, chain⟩ := ref
  exact congrArg (_ ++ ·) (renderChain_cutChain chain)

theorem renderChain_cutChain (chain : List Value) :
    renderChain (cutChain chain) = renderChain chain := by
  cases chain with
  | nil => rfl
  | cons link rest =>
    have hrest := renderChain_cutChain rest
    have hlink : '.' :: '<' :: link.cut.render ++ '>' :: renderChain (cutChain rest) =
        '.' :: '<' :: link.render ++ '>' :: renderChain rest := by
      rw [link.render_cut, hrest]
    cases link with
    | property ref =>
      show '.' :: ref.cut.render ++ renderChain (cutChain rest) = _
      rw [ref.render_cut, hrest]
      rfl
    | _ => exact hlink

end

variable {α : Type} {item : α → List Char} {p : α → Prop} {a b : α} {as bs : List α}

/-- A character that can stand after an item: the comma before the next one or the closing brace. -/
def EndsItem (c : Char) : Prop := c = ',' ∨ c = '\x7d'

/-- Items that have a text, and can be told from it where it stands in a list. -/
structure Legible (item : α → List Char) (p : α → Prop) : Prop where
  ne_nil : ∀ a, p a → item a ≠ []
  append_inj : ∀ a b c d s t, p a → p b → EndsItem c → EndsItem d →
    item a ++ c :: s = item b ++ d :: t → a = b ∧ c :: s = d :: t

/-- Items are legible when their texts differ and have nothing in them that can end an item. -/
theorem legible_of_unmarked (hne : ∀ a, p a → item a ≠ [])
    (hunmarked : ∀ a, p a → ∀ c ∈ item a, ¬ EndsItem c)
    (hinj : ∀ a b, p a → p b → item a = item b → a = b) : Legible item p where
  ne_nil := hne
  append_inj := by
    intro a b c d s t ha hb hc hd h
    obtain ⟨hitem, hrest⟩ :=
      Text.append_inj_of_stop EndsItem (hunmarked a ha) (hunmarked b hb) hc hd h
    exact ⟨hinj a b ha hb hitem, hrest⟩

theorem Legible.inj (h : Legible item p) (ha : p a) (hb : p b) (heq : item a = item b) :
    a = b :=
  (h.append_inj a b ',' ',' [] [] ha hb (.inl rfl) (.inl rfl) (congrArg (· ++ [',']) heq)).1

theorem intercalate_cons (separator item : List α) (items : List (List α)) :
    separator.intercalate (item :: items) = item ++ items.flatMap (separator ++ ·) := by
  induction items generalizing item with
  | nil => simp
  | cons next rest ih => rw [List.intercalate_cons_cons, ih]; simp

/-- The text of a list after its first item. -/
def listEnd (item : α → List Char) (rest : List α) : List Char :=
  (rest.flatMap fun a => ',' :: ' ' :: item a) ++ ['\x7d']

theorem renderList_cons (item : α → List Char) (a : α) (rest : List α) :
    ArrayValue.renderList item (a :: rest) = '\x7b' :: (item a ++ listEnd item rest) := by
  simp [ArrayValue.renderList, intercalate_cons, listEnd, List.flatMap_map]

/-- What stands after an item begins with a character that ends it. -/
theorem exists_listEnd_eq (item : α → List Char) (rest : List α) :
    ∃ c s, listEnd item rest = c :: s ∧ EndsItem c := by
  cases rest with
  | nil => exact ⟨_, _, rfl, .inr rfl⟩
  | cons a rest => exact ⟨_, _, rfl, .inl rfl⟩

theorem Legible.append_listEnd_inj (h : Legible item p) (ha : p a) (hb : p b)
    (heq : item a ++ listEnd item as = item b ++ listEnd item bs) :
    a = b ∧ listEnd item as = listEnd item bs := by
  obtain ⟨c, s, hs, hc⟩ := exists_listEnd_eq item as
  obtain ⟨d, t, ht, hd⟩ := exists_listEnd_eq item bs
  rw [hs, ht] at heq ⊢
  exact h.append_inj a b c d s t ha hb hc hd heq

theorem Legible.listEnd_inj (h : Legible item p) (has : ∀ a ∈ as, p a) (hbs : ∀ b ∈ bs, p b)
    (heq : listEnd item as = listEnd item bs) : as = bs := by
  induction as generalizing bs with
  | nil =>
    cases bs with
    | nil => rfl
    | cons b bs => exact absurd (List.head_eq_of_cons_eq heq) (by decide)
  | cons a as ih =>
    cases bs with
    | nil => exact absurd (List.head_eq_of_cons_eq heq) (by decide)
    | cons b bs =>
      obtain ⟨ha, has'⟩ := List.forall_mem_cons.1 has
      obtain ⟨hb, hbs'⟩ := List.forall_mem_cons.1 hbs
      simp only [listEnd, List.flatMap_cons, List.cons_append, List.append_assoc, List.cons.injEq,
        true_and] at heq
      obtain ⟨rfl, hrest⟩ := h.append_listEnd_inj ha hb heq
      rw [ih has' hbs' hrest]

/-- Lists of legible items have different texts. -/
theorem Legible.renderList_inj (h : Legible item p) (has : ∀ a ∈ as, p a) (hbs : ∀ b ∈ bs, p b)
    (heq : ArrayValue.renderList item as = ArrayValue.renderList item bs) : as = bs := by
  -- after the opening brace of an empty list stands the closing one, and nothing more
  have hempty {a : α} {rest : List α} (ha : p a) :
      ArrayValue.renderList item [] ≠ ArrayValue.renderList item (a :: rest) := by
    intro heq
    obtain ⟨c, s, hs, -⟩ := exists_listEnd_eq item rest
    have hlength := congrArg List.length heq
    have := List.length_pos_iff.2 (h.ne_nil a ha)
    rw [renderList_cons, hs] at hlength
    simp [ArrayValue.renderList] at hlength
    omega
  cases as with
  | nil =>
    cases bs with
    | nil => rfl
    | cons b bs => exact absurd heq (hempty (hbs b List.mem_cons_self))
  | cons a as =>
    obtain ⟨ha, has'⟩ := List.forall_mem_cons.1 has
    cases bs with
    | nil => exact absurd heq.symm (hempty ha)
    | cons b bs =>
      obtain ⟨hb, hbs'⟩ := List.forall_mem_cons.1 hbs
      rw [renderList_cons, renderList_cons] at heq
      obtain ⟨rfl, hrest⟩ := h.append_listEnd_inj ha hb (List.tail_eq_of_cons_eq heq)
      rw [h.listEnd_inj has' hbs' hrest]

/-! ## The items of each kind -/

theorem legible_integer : Legible (fun n : Int64 => Text.signed n.toInt) fun _ => True := by
  refine legible_of_unmarked (fun n _ => Text.signed_ne_nil _) (fun n _ c h => ?_)
    fun m n _ _ h => ?_
  · rcases Text.mem_signed h with rfl | hdigit
    · rintro (h | h) <;> cases h
    · rintro (rfl | rfl) <;> cases hdigit
  · have hread := ObjectPath.signedNumber?_signed m.toInt
    rw [h, ObjectPath.signedNumber?_signed] at hread
    exact Int64.toInt_inj.1 (Option.some.inj hread).symm

theorem legible_boolean : Legible (fun b : Bool => (toString b).toList) fun _ => True := by
  have htext (b : Bool) : (toString b).toList =
      if b then ['t', 'r', 'u', 'e'] else ['f', 'a', 'l', 's', 'e'] := by
    cases b <;> rfl
  refine legible_of_unmarked (fun b _ => ?_) (fun b _ c h => ?_) fun a b _ _ h => ?_
  · cases b <;> simp [htext]
  · rw [htext] at h
    rintro (rfl | rfl) <;> cases b <;> simp at h
  · rw [htext, htext] at h
    cases a <;> cases b <;> first | rfl | simp at h

theorem legible_string : Legible (fun s : String => Text.quote s.toList) fun _ => True where
  ne_nil := fun s _ => List.cons_ne_nil _ _
  append_inj := by
    intro a b c d s t _ _ _ _ h
    obtain ⟨htext, hrest⟩ := Text.quote_append_inj h
    exact ⟨String.toList_inj.1 htext, hrest⟩

theorem legible_dateTime : Legible DateTime.render fun d => d.Valid ∧ d.InMicros where
  ne_nil := fun d hd hnil => by
    have hlength := (DateTime.length_render hd.1).1
    rw [hnil] at hlength
    cases hlength
  append_inj := by
    intro a b c d s t ha hb _ _ h
    have hlength : a.render.length = b.render.length :=
      (DateTime.length_render ha.1).1.trans (DateTime.length_render hb.1).1.symm
    obtain ⟨htext, hrest⟩ := List.append_inj h hlength
    have hread := DateTime.parseChars_render ha.1 ha.2
    rw [htext, DateTime.parseChars_render hb.1 hb.2] at hread
    exact ⟨(Except.ok.inj hread).symm, hrest⟩

/-! ## Values told from their text -/

/-- Values of the plain kinds, and of the date-times among them only those that can be built. -/
def Value.Plain : Value → Prop
  | .null | .integer _ | .boolean _ | .string _ => True
  | .dateTime d => d.Valid
  | .array (.integer _) | .array (.boolean _) | .array (.string _) => True
  | .array (.dateTime items) => ∀ d ∈ items, d.Valid
  | .double _ | .reference _ | .property _ | .array (.double _) | .array (.reference _) => False

theorem ArrayValue.eq_of_render_eq {items others : ArrayValue} (hv : (Value.array items).Plain)
    (hw : (Value.array others).Plain) (hvm : ∀ d ∈ items.dateTimes, d.InMicros)
    (hwm : ∀ d ∈ others.dateTimes, d.InMicros) (hkind : items.kind = others.kind)
    (h : items.render = others.render) : items = others := by
  cases items with
  | integer ns =>
    cases others with
    | integer ms =>
      rw [legible_integer.renderList_inj (fun _ _ => trivial) (fun _ _ => trivial) h]
    | _ => cases hkind
  | boolean bs =>
    cases others with
    | boolean cs =>
      rw [legible_boolean.renderList_inj (fun _ _ => trivial) (fun _ _ => trivial) h]
    | _ => cases hkind
  | string ss =>
    cases others with
    | string ts =>
      rw [legible_string.renderList_inj (fun _ _ => trivial) (fun _ _ => trivial) h]
    | _ => cases hkind
  | dateTime ds =>
    cases others with
    | dateTime es =>
      rw [legible_dateTime.renderList_inj (fun d hd => ⟨hv d hd, hvm d hd⟩)
        (fun e he => ⟨hw e he, hwm e he⟩) h]
    | _ => cases hkind
  | double xs => cases hv
  | reference ps => cases hv

theorem Value.eq_of_body_eq {v w : Value} (hv : v.Plain) (hw : w.Plain)
    (hvm : ∀ d ∈ v.dateTimes, d.InMicros) (hwm : ∀ d ∈ w.dateTimes, d.InMicros)
    (hkind : v.kind = w.kind) (harray : v.isArray = w.isArray) (h : v.body = w.body) : v = w := by
  cases v with
  | null =>
    cases w with
    | null => rfl
    | array others => cases harray
    | _ => cases hkind
  | integer n =>
    cases w with
    | integer m => rw [legible_integer.inj trivial trivial h]
    | array others => cases harray
    | _ => cases hkind
  | boolean b =>
    cases w with
    | boolean c => rw [legible_boolean.inj trivial trivial h]
    | array others => cases harray
    | _ => cases hkind
  | string s =>
    cases w with
    | string t => rw [legible_string.inj trivial trivial h]
    | array others => cases harray
    | _ => cases hkind
  | dateTime d =>
    cases w with
    | dateTime e =>
      have hd := hvm d List.mem_cons_self
      have he := hwm e List.mem_cons_self
      rw [legible_dateTime.inj ⟨hv, hd⟩ ⟨hw, he⟩ h]
    | array others => cases harray
    | _ => cases hkind
  | array items =>
    cases w with
    | array others => rw [ArrayValue.eq_of_render_eq hv hw hvm hwm hkind h]
    | _ => cases harray
  | double x => cases hv
  | reference path => cases hv
  | property ref => cases hv

theorem Value.eq_of_render_eq {v w : Value} (hv : v.Plain) (hw : w.Plain)
    (hvm : ∀ d ∈ v.dateTimes, d.InMicros) (hwm : ∀ d ∈ w.dateTimes, d.InMicros)
    (h : v.render = w.render) : v = w := by
  obtain ⟨htype, hbody⟩ := of_render_eq h
  exact eq_of_body_eq hv hw hvm hwm (congrArg ValueType.kind htype)
    (congrArg ValueType.isArray htype) hbody

end InstanceFilter
