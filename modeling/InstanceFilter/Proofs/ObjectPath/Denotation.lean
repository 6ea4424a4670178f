/-
What a text denotes. A grammatical writing stands for one path: its parts, with the bindings in the
order of their names, where a quoted string stands for the path that it is itself a writing of, if
that has keys, and else for its text. Reading a text comes to a path exactly when the text has a
grammatical writing; it has no more than one, and the path is the one that this writing denotes.
-/
import InstanceFilter.Proofs.ObjectPath.Grammar
import InstanceFilter.Proofs.ObjectPath.RoundTrip

namespace InstanceFilter.ObjectPath

/-! ## One writing to a text -/

theorem quoted_inj {s t : List Char} (h : quoted s = quoted t) : s = t := by
  have hs := readQuoted_escaped "" s []
  have ht := readQuoted_escaped "" t []
  have hbody : escaped s ++ ['"'] = escaped t ++ ['"'] := (List.cons.inj h).2
  rw [hbody, ht] at hs
  cases hs
  rfl

theorem ValueText.text_inj {v v' : ValueText} (hv : v.Grammatical) (hv' : v'.Grammatical)
    (h : v.text = v'.text) : v = v' := by
  have hapart {body token : List Char} (ht : (bare token).Grammatical) :
      (quoted body).text ≠ (bare token).text := by
    intro h
    have hquote : '"' ∈ (quoted body).text := List.mem_cons_self
    rw [h] at hquote
    exact quote_notMem_of_bare ht hquote
  cases v with
  | quoted body => cases v' with
    | quoted body' => rw [quoted_inj h]
    | bare token => exact absurd h (hapart hv')
  | bare token => cases v' with
    | quoted body => exact absurd h.symm (hapart hv)
    | bare token' => exact congrArg bare h

theorem BindingText.text_inj {b b' : BindingText} (hb : b.Grammatical) (hb' : b'.Grammatical)
    (h : b.text = b'.text) : b = b' := by
  have hsplit := splitFirst?_at (equals_notMem_label hb.name_identifier) b.value.text
  have hsplit' := splitFirst?_at (equals_notMem_label hb'.name_identifier) b'.value.text
  unfold text at h
  rw [h, hsplit'] at hsplit
  obtain ⟨hlabel, htext⟩ := Prod.mk.inj (Option.some.inj hsplit)
  have hvalue := ValueText.text_inj hb.value_grammatical hb'.value_grammatical htext.symm
  cases b
  cases b'
  cases hlabel
  cases hvalue
  rfl

theorem bindingsText_inj {separator : Char} {bindings bindings' : List BindingText}
    (hb : ∀ b ∈ bindings, b.Grammatical) (hb' : ∀ b ∈ bindings', b.Grammatical)
    (h : bindingsText separator bindings = bindingsText separator bindings') :
    bindings = bindings' := by
  induction bindings generalizing separator bindings' with
  | nil => cases bindings' with
    | nil => rfl
    | cons c rest => cases h
  | cons b rest ih => cases bindings' with
    | nil => cases h
    | cons b' rest' =>
      obtain ⟨hhead, hrest⟩ := List.forall_mem_cons.1 hb
      obtain ⟨hhead', hrest'⟩ := List.forall_mem_cons.1 hb'
      obtain ⟨raw, hraw⟩ := BindingText.grammatical_iff.1 hhead
      obtain ⟨raw', hraw'⟩ := BindingText.grammatical_iff.1 hhead'
      -- the first binding is read up to the comma behind it, so what follows it is the same
      have hread := readBinding_of_yields hraw (continues_bindingsText rest)
      have hread' := readBinding_of_yields hraw' (continues_bindingsText rest')
      have htext := (List.cons.inj h).2
      rw [htext, hread'] at hread
      obtain ⟨-, hfollow⟩ := Prod.mk.inj (Except.ok.inj hread)
      rw [hfollow] at htext
      rw [BindingText.text_inj hhead hhead' (List.append_cancel_right htext),
        ih hrest hrest' hfollow.symm]

theorem slashes_inj {n n' : Nat} {rest rest' : List Char} (hr : rest.head? ≠ some '/')
    (hr' : rest'.head? ≠ some '/')
    (h : List.replicate n '/' ++ rest = List.replicate n' '/' ++ rest') :
    n = n' ∧ rest = rest' := by
  induction n generalizing n' with
  | zero => cases n' with
    | zero => exact ⟨rfl, h⟩
    | succ n' => exact absurd (congrArg List.head? h) hr
  | succ n ih => cases n' with
    | zero => exact absurd (congrArg List.head? h.symm) hr'
    | succ n' =>
      obtain ⟨rfl, hrest⟩ := ih (List.cons.inj h).2
      exact ⟨rfl, hrest⟩

namespace Writing

variable {w w' : Writing}

theorem slashedText_inj (hw : w.Placed) (hw' : w'.Placed)
    (h : slashedText w.space = slashedText w'.space) : w.space = w'.space := by
  have hcolon (n : Nat) (space : String) : slashedText (some (n, space)) ≠ [] := by
    simp [slashedText]
  cases hs : w.space with
  | none => cases hs' : w'.space with
    | none => rfl
    | some slashed' => exact absurd (by rw [← hs', ← h, hs]; rfl) (hcolon slashed'.1 slashed'.2)
  | some slashed => cases hs' : w'.space with
    | none => exact absurd (by rw [← hs, h, hs']; rfl) (hcolon slashed.1 slashed.2)
    | some slashed' =>
      rw [hs, hs'] at h
      obtain ⟨hn, hspace⟩ := slashes_inj (hw.space_unrooted _ _ hs) (hw'.space_unrooted _ _ hs')
        (List.append_cancel_right h)
      rw [Prod.ext hn (String.toList_inj.1 hspace)]

/-- A text is written in one way only. -/
theorem text_inj (hw : w.Grammatical) (hw' : w'.Grammatical) (h : w.text = w'.text) : w = w' := by
  -- the readers cut both writings in the same places, since the text they are given is one
  have hhost := readHost_text hw.toHeaded
  rw [h, readHost_text hw'.toHeaded] at hhost
  obtain ⟨hhost, htail⟩ := Prod.mk.inj (Except.ok.inj hhost)
  have hspace := readNamespace_tail hw.toPlaced
  rw [← htail, readNamespace_tail hw'.toPlaced] at hspace
  obtain ⟨-, hclassText⟩ := Prod.mk.inj hspace
  have hslashed : slashedText w'.space = slashedText w.space := by
    rw [tail, tail, hclassText] at htail
    exact List.append_cancel_right htail
  have hclass := readClass_classText hw.className_identifier
  rw [← hclassText, readClass_classText hw'.className_identifier] at hclass
  obtain ⟨hclassName, -⟩ := Prod.mk.inj hclass
  have hbindings : bindingsText '.' w'.bindings = bindingsText '.' w.bindings := by
    rw [classText, classText, hclassName] at hclassText
    exact List.append_cancel_left hclassText
  obtain ⟨host, space, className, bindings⟩ := w
  obtain ⟨host', space', className', bindings'⟩ := w'
  congr 1
  · exact hhost.symm
  · exact (slashedText_inj hw'.toPlaced hw.toPlaced hslashed).symm
  · exact String.toList_inj.1 hclassName.symm
  · exact (bindingsText_inj hw'.bindings_grammatical hw.bindings_grammatical hbindings).symm

end Writing

/-! ## What writings stand for -/

mutual

/-- A quoted string is a reference when its body, blanks around it aside, is written grammatically
with bindings. -/
inductive ValueText.Denotes : ValueText → KeyValue → Prop
  | bare {token : List Char} {value : KeyValue} (h : Literal (Text.trim token) value) :
    ValueText.Denotes (.bare token) value
  | reference {body : List Char} {w : Writing} {path : ObjectPath} (hw : w.Grammatical)
    (htext : w.text = Text.trim body) (hbindings : w.bindings ≠ [])
    (hpath : Writing.Denotes w path) : ValueText.Denotes (.quoted body) (.reference path)
  | text {body : List Char}
    (h : ∀ w : Writing, w.Grammatical → w.text = Text.trim body → w.bindings = []) :
    ValueText.Denotes (.quoted body) (.text (String.ofList body))

inductive BindingText.Denotes : BindingText → KeyBinding → Prop
  | intro {b : BindingText} {key : KeyBinding} (hname : key.name = b.name)
    (hvalue : ValueText.Denotes b.value key.value) : BindingText.Denotes b key

/-- The keys of the path are those of the writing in the order of their names. -/
inductive Writing.Denotes : Writing → ObjectPath → Prop
  | intro {w : Writing} {keys sorted : List KeyBinding}
    (hkeys : List.Forall₂ BindingText.Denotes w.bindings keys) (hperm : sorted.Perm keys)
    (hascending : sorted.Pairwise KeyBinding.Before) :
    Writing.Denotes w ⟨w.host, w.space?, w.className, sorted⟩

end

theorem Writing.Denotes.keys_eq_nil_iff {w : Writing} {path : ObjectPath} (h : w.Denotes path) :
    path.keys = [] ↔ w.bindings = [] := by
  obtain @⟨w, keys, sorted, hkeys, hperm, -⟩ := h
  have hlength : sorted.length = w.bindings.length := hperm.length_eq.trans hkeys.length_eq.symm
  show sorted = [] ↔ _
  rw [← List.length_eq_zero_iff, hlength, List.length_eq_zero_iff]

/-! ## Which texts read -/

theorem exists_yields {bindings : List BindingText} (h : ∀ b ∈ bindings, b.Grammatical) :
    ∃ raws, List.Forall₂ BindingText.Yields bindings raws := by
  induction bindings with
  | nil => exact ⟨[], .nil⟩
  | cons b rest ih =>
    obtain ⟨hb, hrest⟩ := List.forall_mem_cons.1 h
    obtain ⟨raw, hraw⟩ := BindingText.grammatical_iff.1 hb
    obtain ⟨raws, hraws⟩ := ih hrest
    exact ⟨raw :: raws, .cons hraw hraws⟩

theorem grammatical_of_yields {bindings : List BindingText} {raws : List RawBinding}
    (h : List.Forall₂ BindingText.Yields bindings raws) : ∀ b ∈ bindings, b.Grammatical := by
  induction h with
  | nil => exact nofun
  | cons hb _ ih => exact List.forall_mem_cons.2 ⟨BindingText.grammatical_iff.2 ⟨_, hb⟩, ih⟩

/-- The keys that are read have the names that are written. -/
theorem ascending_readings_iff {bindings : List BindingText} {raws : List RawBinding}
    (h : List.Forall₂ BindingText.Yields bindings raws) :
    (sortBindings (raws.map RawBinding.reading)).Pairwise KeyBinding.Before ↔
      bindings.Pairwise fun a b => Text.sameName a.name b.name = false := by
  have hnames : raws.map RawBinding.name = bindings.map BindingText.name := by
    induction h with
    | nil => rfl
    | cons hb _ ih => rw [List.map_cons, List.map_cons, hb.name_eq, ih]
  have hdistinct {α : Type} (name : α → String) (items : List α) :
      (items.Pairwise fun a b => Text.sameName (name a) (name b) = false) ↔
        (items.map name).Pairwise fun a b => Text.sameName a b = false :=
    (List.pairwise_map (R := fun a b => Text.sameName a b = false)).symm
  have hreading : (raws.map RawBinding.reading).map KeyBinding.name = raws.map RawBinding.name :=
    List.map_map
  rw [ascending_sortBindings_iff, hdistinct KeyBinding.name, hdistinct BindingText.name, hreading,
    hnames]

theorem parseChars_eq_ok_iff_of_outline {text : List Char} {o : Outline}
    (h : readOutline text = .ok o) {p : ObjectPath} :
    parseChars text = .ok p ↔
      p = ⟨o.host, o.space, o.className, sortBindings (o.bindings.map RawBinding.reading)⟩ ∧
        (sortBindings (o.bindings.map RawBinding.reading)).Pairwise KeyBinding.Before := by
  rw [parseChars_of_outline h, ofOutline_eq_ok_iff]

/-- A text reads exactly when it is written grammatically. -/
theorem exists_parseChars_iff {text : List Char} :
    (∃ p, parseChars text = .ok p) ↔
      ∃ w : Writing, w.Grammatical ∧ w.text = Text.trim text := by
  constructor
  · rintro ⟨p, hp⟩
    obtain ⟨o, ho, -⟩ := exists_outline_of_parseChars hp
    obtain ⟨w, hheaded, htext, hyields⟩ := Writing.readOutline_eq_ok_iff.1 ho
    have hascending := ((parseChars_eq_ok_iff_of_outline ho).1 hp).2
    exact ⟨w, ⟨hheaded, grammatical_of_yields hyields.bindings_yield,
      (ascending_readings_iff hyields.bindings_yield).1 hascending⟩, htext⟩
  · rintro ⟨w, hw, htext⟩
    obtain ⟨raws, hraws⟩ := exists_yields hw.bindings_grammatical
    have ho : readOutline text = .ok ⟨w.host, w.space?, w.className, raws⟩ :=
      Writing.readOutline_eq_ok_iff.2 ⟨w, hw.toHeaded, htext, rfl, rfl, rfl, hraws⟩
    exact ⟨_, (parseChars_eq_ok_iff_of_outline ho).2
      ⟨rfl, (ascending_readings_iff hraws).2 hw.names_distinct⟩⟩

/-! ## What they read as -/

theorem equals_mem_of_bindings {w : Writing} (hne : w.bindings ≠ []) {text : List Char}
    (htext : w.text = Text.trim text) : '=' ∈ text := by
  obtain ⟨b, rest, hbindings⟩ := List.exists_cons_of_ne_nil hne
  have hmem : '=' ∈ w.text := by
    simp [Writing.text, Writing.tail, Writing.classText, hbindings, bindingsText, BindingText.text]
  rw [htext] at hmem
  exact Text.mem_of_mem_trim hmem

theorem denotes_bare_iff {token : List Char} {v value : KeyValue}
    (h : Literal (Text.trim token) v) : (ValueText.bare token).Denotes value ↔ value = v := by
  constructor
  · intro hvalue
    cases hvalue with
    | bare hvalue =>
      have hread : bareValue "" (Text.trim token) = .ok value := bareValue_eq_ok_iff.2 hvalue
      rw [bareValue_eq_ok_iff.2 h] at hread
      exact (Except.ok.inj hread).symm
  · rintro rfl
    exact .bare h

/-- If reading the body comes to what its writings denote, a quoted string reads as what it
denotes. -/
theorem denotes_quoted_iff {body : List Char}
    (ih : ∀ w : Writing, w.Grammatical → w.text = Text.trim body →
      ∀ q, parseChars body = .ok q ↔ w.Denotes q) {value : KeyValue} :
    (ValueText.quoted body).Denotes value ↔ value = quotedValue body (parseChars body) := by
  constructor
  · intro h
    cases h with
    | @reference _ w path hw htext hbindings hpath =>
      rw [(ih w hw htext path).2 hpath]
      exact (quotedValue_path (equals_mem_of_bindings hbindings htext)
        (mt hpath.keys_eq_nil_iff.1 hbindings)).symm
    | text h =>
      refine (quotedValue_text ?_).symm
      rintro ⟨-, q, hq, hkeys⟩
      obtain ⟨w, hw, htext⟩ := exists_parseChars_iff.1 ⟨q, hq⟩
      exact hkeys (((ih w hw htext q).1 hq).keys_eq_nil_iff.2 (h w hw htext))
  · rintro rfl
    rcases quotedValue_cases body (parseChars body) with ⟨q, hq, hkeys, -, hv⟩ | ⟨hnone, hv⟩
    · obtain ⟨w, hw, htext⟩ := exists_parseChars_iff.1 ⟨q, hq⟩
      have hpath := (ih w hw htext q).1 hq
      rw [hv]
      exact .reference hw htext (mt hpath.keys_eq_nil_iff.2 hkeys) hpath
    · rw [hv]
      refine .text fun w hw htext => ?_
      by_contra hbindings
      obtain ⟨q, hq⟩ := exists_parseChars_iff.2 ⟨w, hw, htext⟩
      have hpath := (ih w hw htext q).1 hq
      exact hnone ⟨equals_mem_of_bindings hbindings htext, q, hq,
        mt hpath.keys_eq_nil_iff.1 hbindings⟩

theorem forall₂_denotes_iff {bindings : List BindingText} {raws : List RawBinding}
    (hyields : List.Forall₂ BindingText.Yields bindings raws)
    (h : ∀ b : BindingText, ∀ raw ∈ raws, b.Yields raw →
      ∀ value, b.value.Denotes value ↔ value = raw.value.reading) (keys : List KeyBinding) :
    List.Forall₂ BindingText.Denotes bindings keys ↔ keys = raws.map RawBinding.reading := by
  induction hyields generalizing keys with
  | nil => exact List.forall₂_nil_left_iff
  | @cons b raw rest raws hb _ ih =>
    have hvalue := h b raw List.mem_cons_self hb
    have hrest := ih fun b raw hraw => h b raw (List.mem_cons_of_mem _ hraw)
    rw [List.forall₂_cons_left_iff, List.map_cons]
    constructor
    · rintro ⟨⟨name, value⟩, keys, ⟨rfl, hv⟩, hkeys, rfl⟩
      rw [(hrest keys).1 hkeys, (hvalue value).1 hv, RawBinding.reading, hb.name_eq]
    · rintro rfl
      exact ⟨_, _, .intro hb.name_eq ((hvalue _).2 rfl), (hrest _).2 rfl, rfl⟩

/-- Reading a text comes to the path that its writing denotes. -/
theorem parseChars_eq_ok_iff {text : List Char} {w : Writing} (hw : w.Grammatical)
    (htext : w.text = Text.trim text) {p : ObjectPath} :
    parseChars text = .ok p ↔ w.Denotes p := by
  obtain ⟨raws, hraws⟩ := exists_yields hw.bindings_grammatical
  have ho : readOutline text = .ok ⟨w.host, w.space?, w.className, raws⟩ :=
    Writing.readOutline_eq_ok_iff.2 ⟨w, hw.toHeaded, htext, rfl, rfl, rfl, hraws⟩
  have hvalues : ∀ b : BindingText, ∀ raw ∈ raws, b.Yields raw →
      ∀ value, b.value.Denotes value ↔ value = raw.value.reading := by
    rintro ⟨label, v⟩ ⟨name, raw⟩ hmem ⟨-, -, hv⟩ value
    cases hv with
    | bare _ hliteral => exact denotes_bare_iff hliteral
    | quoted body =>
      -- a body is shorter than the text that it is quoted in, which is what the recursion is on
      have : body.length < text.length := length_of_mem_readOutline ho hmem
      exact denotes_quoted_iff fun w hw htext q => parseChars_eq_ok_iff hw htext
  have hkeys := forall₂_denotes_iff hraws hvalues
  rw [parseChars_eq_ok_iff_of_outline ho]
  constructor
  · rintro ⟨rfl, hascending⟩
    exact .intro ((hkeys _).2 rfl) (perm_sortBindings _) hascending
  · rintro ⟨hdenoted, hperm, hascending⟩
    rw [(hkeys _).1 hdenoted] at hperm
    rw [sortBindings_of_perm hperm hascending]
    exact ⟨rfl, hascending⟩
termination_by text.length

/-- Reading decides the grammar of paths. A text reads exactly when, blanks around it aside, it is
written grammatically; it is then written so in one way only, and what is read is what this writing
denotes. -/
theorem parse_grammar (text : String) :
    ((∃ p, parse text = .ok p) ↔
      ∃ w : Writing, w.Grammatical ∧ w.text = Text.trim text.toList) ∧
    ∀ w : Writing, w.Grammatical → w.text = Text.trim text.toList →
      (∀ w' : Writing, w'.Grammatical → w'.text = Text.trim text.toList → w' = w) ∧
        ∀ p, parse text = .ok p ↔ w.Denotes p := by
  refine ⟨exists_parseChars_iff, fun w hw htext => ⟨fun w' hw' htext' => ?_, fun p => ?_⟩⟩
  · exact Writing.text_inj hw' hw (htext'.trans htext.symm)
  · exact parseChars_eq_ok_iff hw htext

/-- A reference, written with blanks around the name, slashes before the namespace and a sign. -/
theorem parse_grammar_reference :
    let inside : Writing := ⟨none, none, "B", [⟨"k".toList, .bare "+1".toList⟩]⟩
    let outside : Writing :=
      ⟨some "h", some (2, "root"), "Log", [⟨" Origin ".toList, .quoted inside.text⟩]⟩
    outside.Grammatical ∧ parse " //h///root:Log. Origin =\"B.k=+1\"" = .ok
      ⟨some "h", some "root", "Log",
        [⟨"Origin", .reference ⟨none, none, "B", [⟨"k", .integer ⟨1, by decide⟩⟩]⟩⟩]⟩ := by
  intro inside outside
  have hnumber : Literal (Text.trim "+1".toList) (.integer ⟨1, by decide⟩) := by
    have htrim : Text.trim "+1".toList = ['+'] ++ ['1'] := by decide +kernel
    rw [htrim]
    exact .number (.inr (.inl rfl)) (List.cons_ne_nil _ _) (List.forall_mem_singleton.2 rfl)
      (by decide)
  have hinside : inside.Grammatical := {
    host_located := fun h => absurd rfl h
    space_unrooted := nofun
    space_colonless := nofun
    space_pointless := nofun
    className_identifier := by decide
    hosted := iff_of_false (fun h => h rfl) (by decide)
    host_slashless := nofun
    bindings_grammatical := List.forall_mem_singleton.2 ⟨by decide +kernel, by decide, _, hnumber⟩
    names_distinct := List.pairwise_singleton _ _ }
  have houtside : outside.Grammatical := {
    host_located := fun _ => Option.some_ne_none "root"
    space_unrooted := by rintro _ _ ⟨⟩; decide
    space_colonless := by rintro _ _ ⟨⟩; decide
    space_pointless := by rintro _ _ ⟨⟩; decide
    className_identifier := by decide
    hosted := iff_of_true (Option.some_ne_none "h") (by decide)
    host_slashless := by rintro _ ⟨⟩; decide
    bindings_grammatical := List.forall_mem_singleton.2 ⟨by decide +kernel, trivial⟩
    names_distinct := List.pairwise_singleton _ _ }
  have hkey : BindingText.Denotes ⟨"k".toList, .bare "+1".toList⟩ ⟨"k", .integer ⟨1, by decide⟩⟩ :=
    .intro (by decide +kernel) (.bare hnumber)
  have hpath : inside.Denotes ⟨none, none, "B", [⟨"k", .integer ⟨1, by decide⟩⟩]⟩ :=
    .intro (.cons hkey .nil) (.refl _) (List.pairwise_singleton _ _)
  have horigin : BindingText.Denotes ⟨" Origin ".toList, .quoted inside.text⟩
      ⟨"Origin", .reference ⟨none, none, "B", [⟨"k", .integer ⟨1, by decide⟩⟩]⟩⟩ :=
    .intro (by decide +kernel)
      (.reference hinside (by decide +kernel) (List.cons_ne_nil _ _) hpath)
  refine ⟨houtside, (((parse_grammar _).2 outside houtside (by decide +kernel)).2 _).2 ?_⟩
  exact .intro (.cons horigin .nil) (.refl _) (List.pairwise_singleton _ _)

end InstanceFilter.ObjectPath
