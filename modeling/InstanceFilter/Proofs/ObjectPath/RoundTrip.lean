/-
Writing a path and reading it again. The text of a path whose names are well spelled has one
outline, so the path comes back up to its quoted values: a string comes back as a string unless it
reads as a keyed path, and a reference as a reference when its path has keys and itself comes back.

Two statements follow by induction over the references. A well-shaped path comes back equal exactly
when every value within it is told by its text, and then it comes back unchanged. A path that was
read comes back equal exactly when no path within it starts with a blank: stripping the slashes
before a namespace can leave one there, which the next reading trims.
-/
import InstanceFilter.Proofs.ObjectPath.Keys
import InstanceFilter.Proofs.ObjectPath.Rendering
import InstanceFilter.Proofs.ObjectPath.Sameness
import InstanceFilter.Proofs.ObjectPath.Spelling

namespace InstanceFilter.ObjectPath

/-! ## Reading from the outline -/

/-- What a value of an outline stands for. -/
def RawValue.reading : RawValue → KeyValue
  | .plain value => value
  | .quoted body => quotedValue body (parseChars body)

def RawBinding.reading (b : RawBinding) : KeyBinding := ⟨b.name, b.value.reading⟩

theorem parseChars_of_outline {text : List Char} {outline : Outline}
    (h : readOutline text = .ok outline) :
    parseChars text = ofOutline outline (outline.bindings.map RawBinding.reading) := by
  rw [parseChars]
  split
  · next h' => rw [h] at h'; cases h'
  · next outline' h' =>
    obtain rfl : outline = outline' := Except.ok.inj (h.symm.trans h')
    refine congrArg (ofOutline outline) ?_
    calc _ = outline.bindings.attach.map (RawBinding.reading ∘ Subtype.val) := by
            refine List.map_congr_left ?_
            rintro ⟨⟨name, value⟩, hb⟩ -
            cases value <;> rfl
      _ = outline.bindings.map RawBinding.reading := by
            rw [← List.map_map, List.attach_map_subtype_val]

theorem parseChars_of_error {text : List Char} {e : ObjectPath.Error}
    (h : readOutline text = .error e) : parseChars text = .error e := by
  rw [parseChars]
  split
  · next h' => exact congrArg Except.error (Except.error.inj (h'.symm.trans h))
  · next h' => rw [h] at h'; cases h'

theorem exists_outline_of_parseChars {text : List Char} {p : ObjectPath}
    (h : parseChars text = .ok p) : ∃ outline, readOutline text = .ok outline ∧
      p = ⟨outline.host, outline.space, outline.className,
        sortBindings (outline.bindings.map RawBinding.reading)⟩ ∧
      p.keys.Pairwise KeyBinding.Before := by
  cases ho : readOutline text with
  | error e => rw [parseChars_of_error ho] at h; cases h
  | ok outline =>
    rw [parseChars_of_outline ho] at h
    obtain ⟨rfl, hkeys⟩ := ofOutline_eq_ok_iff.1 h
    exact ⟨outline, rfl, rfl, hkeys⟩

/-- Blanks around a text have no say in how it reads. -/
theorem parseChars_of_trim {a b : List Char} (h : Text.trim a = Text.trim b) :
    parseChars a = parseChars b := by
  have hab : readOutline a = readOutline b := by
    unfold readOutline
    rw [h]
  cases ho : readOutline b with
  | error e => rw [parseChars_of_error ho, parseChars_of_error (hab.trans ho)]
  | ok outline => rw [parseChars_of_outline ho, parseChars_of_outline (hab.trans ho)]

/-! ## Quoted values -/

/-- A body that stands for a reference holds an equals sign and reads as a keyed path. -/
theorem quotedValue_path {body : List Char} {path : ObjectPath} (heq : '=' ∈ body)
    (hkeys : path.keys ≠ []) : quotedValue body (.ok path) = .reference path := by
  simp [quotedValue, heq, hkeys]

theorem quotedValue_text {body : List Char} {reading : Except ObjectPath.Error ObjectPath}
    (h : ¬ ('=' ∈ body ∧ ∃ r, reading = .ok r ∧ r.keys ≠ [])) :
    quotedValue body reading = .text (String.ofList body) := by
  cases reading with
  | error e => rfl
  | ok path =>
    refine if_neg fun hif => h ?_
    simpa using hif

theorem quotedValue_cases (body : List Char) (reading : Except ObjectPath.Error ObjectPath) :
    (∃ r, reading = .ok r ∧ r.keys ≠ [] ∧ '=' ∈ body ∧ quotedValue body reading = .reference r) ∨
      (¬ ('=' ∈ body ∧ ∃ r, reading = .ok r ∧ r.keys ≠ []) ∧
        quotedValue body reading = .text (String.ofList body)) := by
  by_cases h : '=' ∈ body ∧ ∃ r, reading = .ok r ∧ r.keys ≠ []
  · obtain ⟨heq, r, rfl, hkeys⟩ := h
    exact .inl ⟨r, rfl, hkeys, heq, quotedValue_path heq hkeys⟩
  · exact .inr ⟨h, quotedValue_text h⟩

/-! ## Up to the values -/

/-- What a binding comes back as. -/
def reread (b : KeyBinding) : KeyBinding := b.raw.reading

/-- A path whose text starts with no blank comes back up to its values. -/
theorem parseChars_render {p : ObjectPath} (h : p.Spelled) (ha : p.Anchored) :
    parseChars p.render = .ok { p with keys := p.keys.map reread } := by
  rw [parseChars_of_outline (readOutline_render h ha)]
  have hkeys : p.outline.bindings.map RawBinding.reading = p.keys.map reread :=
    List.map_map
  rw [hkeys]
  exact ofOutline_of_ascending p.outline (List.pairwise_map.2 h.keys_ascending)

/-- With a key there is an equals sign in the text. -/
theorem equals_mem_render {p : ObjectPath} (h : p.keys ≠ []) : '=' ∈ p.render := by
  obtain ⟨b, keys, hk⟩ := List.exists_cons_of_ne_nil h
  obtain ⟨name, value⟩ := b
  rw [render_eq_tailText, tailText, classText, hk, renderBindings]
  simp

/-! ## Unchanged paths -/

/-- A value told by its text comes back, if the path of a reference does. -/
theorem reread_of_distinct {b : KeyBinding} (h : b.value.Distinct)
    (hr : ∀ r, b.value = .reference r → parseChars r.render = .ok r) : reread b = b := by
  obtain ⟨name, value⟩ := b
  refine congrArg (KeyBinding.mk name) ?_
  cases value with
  | text s =>
    show quotedValue s.toList (parse s) = .text s
    rw [quotedValue_text h, String.ofList_toList]
  | reference r =>
    show quotedValue r.render (parseChars r.render) = .reference r
    rw [hr r rfl, quotedValue_path (equals_mem_render h) h]
  | boolean b => rfl
  | integer n => rfl

theorem parseChars_render_of_faithful {p : ObjectPath} (h : p.WellShaped) (hf : p.Faithful) :
    parseChars p.render = .ok p := by
  induction p using induction_references with
  | step p ih =>
    obtain ⟨⟨hs, ha⟩, hinside⟩ := forall_within_iff.1 h
    obtain ⟨hdistinct, hfaithful⟩ := forall_within_iff.1 hf
    have hkeys : p.keys.map reread = p.keys := by
      refine (List.map_congr_left fun b hb => ?_).trans (List.map_id p.keys)
      exact reread_of_distinct (hdistinct b hb) fun r hr =>
        ih b hb r hr (hinside b hb r hr) (hfaithful b hb r hr)
    rw [parseChars_render hs ha, hkeys]
    cases p
    rfl

/-! ## Paths that start with a blank -/

/-- Without a host, what is left of a path's text after trimming is all but the first blanks. -/
theorem trim_render {p : ObjectPath} (h : p.Spelled) (hh : p.host = none) {space : String}
    (hs : p.space = some space) :
    Text.trim p.render = Text.trimLeft space.toList ++ ':' :: p.classText := by
  have hcolon : Text.isBlank ':' = false := Text.isBlank_eq_false (by decide)
  have htext : p.render = space.toList ++ ':' :: p.classText := by
    rw [render_eq_tailText, tailText, hh, hs, hostText, spaceText, List.nil_append, List.append_assoc,
      List.singleton_append]
  have hleft := Text.trimLeft_append_cons hcolon space.toList p.classText
  have hink : EndsInInk (Text.trimLeft space.toList ++ ':' :: p.classText) :=
    ((endsInInk_classText h.className_identifier).cons ':').append _
  rw [Text.trim, htext, hleft]
  exact Text.trimRight_of_last hink.last

/-- The blanks before a namespace are not read back, so what is read is another path. -/
theorem not_same_of_blank {p q : ObjectPath} (h : p.Spelled) (ha : ¬ p.Anchored)
    (hq : parseChars p.render = .ok q) : q.same p = false := by
  obtain ⟨hh, space, hs, c, hc, hblank⟩ : p.host = none ∧ ∃ space, p.space = some space ∧
      ∃ c ∈ space.toList.head?, Text.isBlank c = true := by simpa [Anchored] using ha
  refine Bool.eq_false_iff.2 fun hsame => ?_
  obtain ⟨hhost, hspace, -⟩ := same_parts hsame
  obtain ⟨o, ho, rfl, -⟩ := exists_outline_of_parseChars hq
  obtain ⟨w, hw, htext, hyields⟩ := Writing.readOutline_eq_ok_iff.1 ho
  have hnone : w.host = none := hyields.host_eq.symm.trans (eq_none_of_sameName? (hh ▸ hhost))
  have htail : w.tail = Text.trimLeft space.toList ++ ':' :: p.classText := by
    rw [← trim_render h hh hs, ← htext, Writing.text, hnone]
    rfl
  have hsub := (List.dropWhile_sublist (l := space.toList) Text.isBlank).subset
  have hcolon : ':' ∉ Text.trimLeft space.toList := fun hm =>
    h.space_colonless space hs (hsub hm)
  have hpoint : '.' ∉ Text.trimLeft space.toList := fun hm =>
    h.space_pointless space hs (hsub hm)
  have hread := Writing.readNamespace_tail hw.toPlaced
  rw [htail, readNamespace_at hcolon hpoint] at hread
  have hospace : o.space = _ := hyields.space_eq.trans (Prod.mk.inj hread).1.symm
  -- the namespace that is read is no longer than what trimming leaves of the one written
  rw [hs] at hspace
  obtain ⟨space', hs', hname⟩ := exists_of_sameName?_some hspace
  have hle := (of_namespace? (hospace.symm.trans hs')).2.2.length_le
  have hlt := Text.length_trimLeft_lt hc hblank
  have hlen := length_of_sameName hname
  omega

/-! ## Paths that come back equal -/

/-- What comes back for a value tells it from the others, and comes back within a reference too. -/
theorem distinct_of_same {b : KeyBinding} (h : (reread b).value.same b.value = true) :
    b.value.Distinct ∧ ∀ r, b.value = .reference r →
      ∃ q, parseChars r.render = .ok q ∧ q.same r = true := by
  obtain ⟨name, value⟩ := b
  cases value with
  | text s =>
    refine ⟨?_, fun r hr => by cases hr⟩
    rcases quotedValue_cases s.toList (parseChars s.toList) with ⟨r, -, -, -, hv⟩ | ⟨hd, -⟩
    · have hs : (quotedValue s.toList (parseChars s.toList)).same (.text s) = true := h
      rw [hv] at hs
      simp [KeyValue.same] at hs
    · exact hd
  | reference r =>
    rcases quotedValue_cases r.render (parseChars r.render) with ⟨q, hq, hkeys, -, hv⟩ | ⟨-, hv⟩
    all_goals
      have hs : (quotedValue r.render (parseChars r.render)).same (.reference r) = true := h
      rw [hv] at hs
    · have hs : q.same r = true := by simpa [KeyValue.same] using hs
      refine ⟨(keys_ne_nil_iff_of_same hs).1 hkeys, fun r' hr' => ?_⟩
      cases hr'
      exact ⟨q, hq, hs⟩
    · simp [KeyValue.same] at hs
  | boolean b => exact ⟨trivial, fun r hr => by cases hr⟩
  | integer n => exact ⟨trivial, fun r hr => by cases hr⟩

/-- A path that comes back equal starts with no blank, has only values told by their texts, and the
same goes for every path within. -/
theorem anchored_and_faithful_of_same {p : ObjectPath}
    (hs : ∀ q : ObjectPath, q.Within p → q.Spelled)
    (h : ∃ q, parseChars p.render = .ok q ∧ q.same p = true) :
    (∀ q : ObjectPath, q.Within p → q.Anchored) ∧ p.Faithful := by
  induction p using induction_references with
  | step p ih =>
    obtain ⟨q, hq, hsame⟩ := h
    obtain ⟨hspelled, hinside⟩ := forall_within_iff.1 hs
    -- only of a path that starts with no blank is it known what its text reads as
    by_cases ha : p.Anchored
    · rw [parseChars_render hspelled ha] at hq
      cases hq
      have hvalue : ∀ b ∈ p.keys, _ := fun b hb =>
        distinct_of_same (same_of_mem_keys (same_parts hsame).2.2 hb)
      have hwithin := fun b hb r hr => ih b hb r hr (hinside b hb r hr) ((hvalue b hb).2 r hr)
      exact ⟨forall_within_iff.2 ⟨ha, fun b hb r hr => (hwithin b hb r hr).1⟩,
        forall_within_iff.2 ⟨fun b hb => (hvalue b hb).1, fun b hb r hr => (hwithin b hb r hr).2⟩⟩
    · rw [not_same_of_blank hspelled ha hq] at hsame
      cases hsame

/-! ## Paths that were read -/

/-- A value that was read is told by its text, and the path of a reference was read from a shorter
text than the binding. -/
theorem distinct_of_reading {b : RawBinding} (h : b.Spelled) :
    b.reading.value.Distinct ∧ ∀ r, b.reading.value = .reference r →
      ∃ body, b.value = .quoted body ∧ parseChars body = .ok r := by
  obtain ⟨name, value⟩ := b
  have hsettled : value.Settled := h.value_settled
  cases value with
  | plain value =>
    cases value with
    | text s => exact hsettled.elim
    | reference r => exact hsettled.elim
    | boolean b => exact ⟨trivial, fun r hr => by cases hr⟩
    | integer n => exact ⟨trivial, fun r hr => by cases hr⟩
  | quoted body =>
    show (quotedValue body (parseChars body)).Distinct ∧
      ∀ r, quotedValue body (parseChars body) = .reference r → _
    rcases quotedValue_cases body (parseChars body) with ⟨q, hq, hkeys, -, hv⟩ | ⟨hd, hv⟩
    all_goals rw [hv]
    · refine ⟨hkeys, fun r hr => ?_⟩
      cases hr
      exact ⟨body, rfl, hq⟩
    · refine ⟨?_, fun r hr => by cases hr⟩
      rwa [KeyValue.Distinct, parse, String.toList_ofList]

/-- Every path within one that was read is well spelled and has only values told by their texts. -/
theorem spelled_and_faithful_of_parseChars {text : List Char} {p : ObjectPath}
    (h : parseChars text = .ok p) :
    (∀ q : ObjectPath, q.Within p → q.Spelled) ∧ p.Faithful := by
  obtain ⟨o, ho, hp, hkeys⟩ := exists_outline_of_parseChars h
  have hspelled := spelled_of_readOutline ho
  have hraw : ∀ b ∈ p.keys, ∃ raw ∈ o.bindings, raw.reading = b := by
    rw [hp]
    exact fun b hb => List.mem_map.1 (mem_sortBindings.1 hb)
  have hwithin : ∀ b ∈ p.keys, ∀ r, b.value = .reference r →
      (∀ q : ObjectPath, q.Within r → q.Spelled) ∧ r.Faithful := by
    intro b hb r hr
    obtain ⟨raw, hmem, rfl⟩ := hraw b hb
    obtain ⟨body, hbody, hread⟩ := (distinct_of_reading (hspelled.bindings_spelled raw hmem)).2 r hr
    have hlt := length_of_mem_readOutline ho hmem
    rw [hbody] at hlt
    -- a body is shorter than the text that it is quoted in, which is what the recursion is on
    have : body.length < text.length := hlt
    exact spelled_and_faithful_of_parseChars hread
  refine ⟨forall_within_iff.2 ⟨?_, fun b hb r hr => (hwithin b hb r hr).1⟩,
    forall_within_iff.2 ⟨fun b hb => ?_, fun b hb r hr => (hwithin b hb r hr).2⟩⟩
  · have hhead : HeadSpelled p.host p.space p.className := by
      rw [hp]
      exact hspelled.toHeadSpelled
    refine ⟨hhead, fun b hb => ?_, hkeys⟩
    obtain ⟨raw, hmem, rfl⟩ := hraw b hb
    exact (hspelled.bindings_spelled raw hmem).name_identifier
  · obtain ⟨raw, hmem, rfl⟩ := hraw b hb
    exact (distinct_of_reading (hspelled.bindings_spelled raw hmem)).1
termination_by text.length

/-! ## Writing and reading again -/

theorem parse_toText (p : ObjectPath) : parse p.toText = parseChars p.render := by
  rw [parse, toText, String.toList_ofList]

/-- A well-shaped path comes back equal exactly when each of its values, and of the values within,
is told by its text; and then nothing of it has changed. -/
theorem parse_toText_iff {p : ObjectPath} (h : p.WellShaped) :
    ((∃ q, parse p.toText = .ok q ∧ q.same p = true) ↔ p.Faithful) ∧
      (p.Faithful → parse p.toText = .ok p) := by
  rw [parse_toText]
  have hback : p.Faithful → parseChars p.render = .ok p := parseChars_render_of_faithful h
  refine ⟨⟨fun hq => ?_, fun hf => ⟨p, hback hf, same_self p⟩⟩, hback⟩
  exact (anchored_and_faithful_of_same (fun q hq => (h q hq).1) hq).2

/-- A path of a class and one key is as well off as the path that the key may refer to. -/
theorem faithful_of_single {className name : String} {value : KeyValue}
    (hclass : Text.isIdentifier className.toList = true)
    (hname : Text.isIdentifier name.toList = true) (hvalue : value.Distinct)
    (hr : ∀ r, value = .reference r → r.WellShaped ∧ r.Faithful) :
    WellShaped ⟨none, none, className, [⟨name, value⟩]⟩ ∧
      Faithful ⟨none, none, className, [⟨name, value⟩]⟩ := by
  have hspelled : Spelled ⟨none, none, className, [⟨name, value⟩]⟩ := {
    className_identifier := hclass
    host_slashless := nofun
    host_located := fun h => absurd rfl h
    space_nonempty := nofun
    space_unrooted := nofun
    space_colonless := nofun
    space_pointless := nofun
    keys_identifiers := List.forall_mem_singleton.2 hname
    keys_ascending := List.pairwise_singleton _ _ }
  constructor
  · exact forall_within_iff.2 ⟨⟨hspelled, nofun⟩, List.forall_mem_singleton.2 fun r h => (hr r h).1⟩
  · exact forall_within_iff.2
      ⟨List.forall_mem_singleton.2 hvalue, List.forall_mem_singleton.2 fun r h => (hr r h).2⟩

/-- A reference to a path with a key comes back. -/
theorem parse_toText_iff_reference : ∃ p : ObjectPath,
    p = ⟨none, none, "A", [⟨"r", .reference ⟨none, none, "B", [⟨"k", .boolean true⟩]⟩⟩]⟩ ∧
      p.WellShaped ∧ parse p.toText = .ok p := by
  have back : ∀ p : ObjectPath, p.WellShaped ∧ p.Faithful →
      p.WellShaped ∧ parse p.toText = .ok p :=
    fun p ⟨hs, hf⟩ => ⟨hs, (parse_toText_iff hs).2 hf⟩
  refine ⟨_, rfl, back _ ?_⟩
  refine faithful_of_single (by decide) (by decide) (List.cons_ne_nil _ _) fun r hr => ?_
  cases hr
  exact faithful_of_single (by decide) (by decide) trivial nofun

/-- A text without keys or blanks around it reads as its outline. -/
theorem parse_of_keyless {text : String} {c d : Char} {o : Outline}
    (hc : text.toList.head? = some c) (hcb : Text.isBlank c = false)
    (hd : text.toList.getLast? = some d) (hdb : Text.isBlank d = false)
    (h : ((readHost text.toList).bind fun (host, rest) => readAfterHost host rest) = .ok o)
    (hb : o.bindings = []) : parse text = .ok ⟨o.host, o.space, o.className, []⟩ := by
  have hne : text.toList ≠ [] := fun hnil => by rw [hnil] at hc; cases hc
  have ho := readOutline_of_ends hne (fun x hx => by rw [hc] at hx; cases hx; exact hcb)
    (fun x hx => by rw [hd] at hx; cases hx; exact hdb)
  rw [parse, parseChars_of_outline (ho.trans h), hb]
  exact ofOutline_of_ascending o .nil

/-- A path that was read comes back equal exactly when its text, and that of every path within,
starts with no blank; and then nothing of it has changed. -/
theorem parse_toText_of_parse {text : String} {p : ObjectPath} (h : parse text = .ok p) :
    ((∃ q, parse p.toText = .ok q ∧ q.same p = true) ↔
        ∀ q : ObjectPath, q.Within p → q.Anchored) ∧
      ((∀ q : ObjectPath, q.Within p → q.Anchored) → parse p.toText = .ok p) := by
  obtain ⟨hs, hf⟩ := spelled_and_faithful_of_parseChars h
  rw [parse_toText]
  have hback : (∀ q : ObjectPath, q.Within p → q.Anchored) → parseChars p.render = .ok p :=
    fun ha => parseChars_render_of_faithful (fun q hq => ⟨hs q hq, ha q hq⟩) hf
  refine ⟨⟨fun hq => ?_, fun ha => ⟨p, hback ha, same_self p⟩⟩, hback⟩
  exact (anchored_and_faithful_of_same hs hq).1

/-- The slash before a namespace is not written again, and the path is the same without it. -/
theorem parse_toText_of_parse_rooted :
    parse "/root:Cls" = .ok ⟨none, some "root", "Cls", []⟩ ∧
      parse (toText ⟨none, some "root", "Cls", []⟩) = .ok ⟨none, some "root", "Cls", []⟩ := by
  have hread : parse "/root:Cls" = .ok ⟨none, some "root", "Cls", []⟩ :=
    parse_of_keyless (o := ⟨none, some "root", "Cls", []⟩) rfl
      (Text.isBlank_eq_false (by decide)) rfl (Text.isBlank_eq_false (by decide)) rfl rfl
  refine ⟨hread, (parse_toText_of_parse hread).2 (forall_within_iff.2 ⟨?_, nofun⟩)⟩
  intro _ s hs c hc
  cases hs
  cases hc
  exact Text.isBlank_eq_false (by decide)

/-- A blank behind the slash is written first, so the next reading trims it. -/
theorem parse_toText_blank :
    parse "/ root:Cls" = .ok ⟨none, some " root", "Cls", []⟩ ∧
      toText ⟨none, some " root", "Cls", []⟩ = " root:Cls" ∧
      parse " root:Cls" = .ok ⟨none, some "root", "Cls", []⟩ ∧
      same ⟨none, some "root", "Cls", []⟩ ⟨none, some " root", "Cls", []⟩ = false := by
  have htrim : Text.trim " root:Cls".toList = Text.trim "root:Cls".toList :=
    congrArg Text.trimRight (List.dropWhile_cons_of_pos (Text.isBlank_iff.2 (by decide)))
  have hslash : parse "/ root:Cls" = .ok ⟨none, some " root", "Cls", []⟩ :=
    parse_of_keyless (o := ⟨none, some " root", "Cls", []⟩) rfl
      (Text.isBlank_eq_false (by decide)) rfl (Text.isBlank_eq_false (by decide)) rfl rfl
  have hblank : parse "root:Cls" = .ok ⟨none, some "root", "Cls", []⟩ :=
    parse_of_keyless (o := ⟨none, some "root", "Cls", []⟩) rfl
      (Text.isBlank_eq_false (by decide)) rfl (Text.isBlank_eq_false (by decide)) rfl rfl
  exact ⟨hslash, by decide, (parseChars_of_trim htrim).trans hblank, by decide⟩

end InstanceFilter.ObjectPath
