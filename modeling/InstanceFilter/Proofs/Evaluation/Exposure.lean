/-
Faults of quantified comparisons, and when they are seen. The right-hand side and the comparison are
checked before an element is looked at, so what they have against each other shows on every array of
the kind, the empty one included. Two faults are left to the elements: a pattern that does not
compile shows at the first of them, and a date-time of the other form shows where the walk comes to
it, if the quantifier has not ended before. So whether a quantified comparison errs can depend on
the array, and only by these two.
-/
import InstanceFilter.Proofs.Evaluation.Typing

namespace InstanceFilter

variable {settings : Settings}

/-! ## Where a walk errs -/

/-- A walk errs at an element that errs, when every element before it lets the quantifier go on. -/
theorem Quantifier.exists_walk_error_iff (q : Quantifier) (verdict : Value → Except EvalError Bool)
    (elements : List Value) :
    (∃ e, q.walk (elements.map verdict) = .error e) ↔
      ∃ before v after, elements = before ++ v :: after ∧ (∃ e, verdict v = .error e) ∧
        ∀ u ∈ before, verdict u = .ok (!q.endsAt) := by
  induction elements with
  | nil =>
    constructor
    · rintro ⟨e, ⟨⟩⟩
    · rintro ⟨before, v, after, hsplit, -⟩
      cases before <;> cases hsplit
  | cons w rest ih =>
    rw [List.map_cons]
    constructor
    · rintro ⟨e, he⟩
      cases hw : verdict w with
      | error e' => exact ⟨[], w, rest, rfl, ⟨e', hw⟩, nofun⟩
      | ok b =>
        rw [hw, walk] at he
        split at he
        · cases he
        · next hb =>
          obtain ⟨before, v, after, rfl, hv, hbefore⟩ := ih.1 ⟨e, he⟩
          refine ⟨w :: before, v, after, rfl, hv, List.forall_mem_cons.2 ⟨?_, hbefore⟩⟩
          rw [hw, Bool.eq_not_of_ne hb]
    · rintro ⟨before, v, after, hsplit, ⟨e, he⟩, hbefore⟩
      cases before with
      | nil =>
        cases hsplit
        exact ⟨e, by rw [he, walk]⟩
      | cons u before =>
        cases hsplit
        obtain ⟨hu, hbefore⟩ := List.forall_mem_cons.1 hbefore
        -- the walk passes over an element that does not end it
        rw [hu, walk, if_neg (by cases q <;> decide)]
        exact ih.2 ⟨before, v, after, rfl, ⟨e, he⟩, hbefore⟩

/-! ## What an element can bring up -/

/-- A timestamp beside an interval, or beside the text of one. -/
def Value.MixedWith (v rhs : Value) : Prop :=
  ∃ a b, v = .dateTime a ∧ rhs.StandsFor b ∧ a.isInterval ≠ b.isInterval

/-- Where the checks pass, an element is well typed unless it is a date-time of the other form. -/
theorem wellTyped_element_iff {c : Comparator} {items : ArrayValue} {v rhs : Value}
    (hv : v ∈ items.elements) (hrhs : rhs.isArray = false) (hfits : rhs.Fits items.kind)
    (hdefined : c.DefinedFor items.kind) : c.WellTyped v rhs ↔ ¬ v.MixedWith rhs := by
  obtain ⟨hkind, harray, -⟩ := ArrayValue.of_mem_elements hv
  constructor
  · rintro h ⟨a, b, rfl, hb, hne⟩
    exact hne (h.forms a b rfl hb)
  · intro h
    rw [← hkind] at hfits hdefined
    refine ⟨hfits, harray.trans hrhs.symm, fun hc => ⟨harray, isOrdered_iff.1 (hdefined.1 hc)⟩,
      fun hc => ⟨harray, hdefined.2 hc⟩, fun a b hva hb => ?_⟩
    by_contra hne
    exact h ⟨a, b, hva, hb, hne⟩

theorem exists_error_element_iff (settings : Settings) {c : Comparator} {items : ArrayValue}
    {v rhs : Value} (hv : v ∈ items.elements) (hrhs : rhs.isArray = false)
    (hfits : rhs.Fits items.kind) (hdefined : c.DefinedFor items.kind) :
    (∃ e, (compareValues settings (.compare c) v rhs).outcome = .error e) ↔
      v.MixedWith rhs ∨ ¬ c.Compilable settings rhs := by
  have hnull := (ArrayValue.of_mem_elements hv).2.2
  have hwell := wellTyped_element_iff hv hrhs hfits hdefined
  constructor
  · rintro ⟨e, he⟩
    by_contra hnone
    obtain ⟨hmixed, hcompiles⟩ := not_or.1 hnone
    obtain ⟨verdict, hok⟩ :=
      exists_outcome_of_wellTyped hnull (hwell.2 hmixed) (not_not.1 hcompiles)
    cases he.symm.trans hok
  · intro h
    by_cases hmixed : v.MixedWith rhs
    · obtain ⟨cause, he⟩ :=
        outcome_of_not_wellTyped settings hnull fun hw => hwell.1 hw hmixed
      exact ⟨_, he⟩
    · obtain ⟨pattern, -, he⟩ :=
        outcome_of_not_compilable (hwell.2 hmixed) (h.resolve_left hmixed)
      exact ⟨_, he⟩

/-! ## What the elements bring up -/

/-- The faults that are seen only with the elements at hand: a pattern that does not compile, if
there is an element at all, and a date-time of the other form, if the walk comes to it. -/
def Quantifier.Exposes (settings : Settings) (q : Quantifier) (c : Comparator)
    (elements : List Value) (rhs : Value) : Prop :=
  (¬ c.Compilable settings rhs ∧ elements ≠ []) ∨
    ∃ before v after, elements = before ++ v :: after ∧ v.MixedWith rhs ∧
      ∀ u ∈ before, (compareValues settings (.compare c) u rhs).outcome = .ok (!q.endsAt)

/-- Where the checks pass, a quantified comparison errs by what the elements bring up. -/
theorem exists_outcome_error_iff {q : Quantifier} {c : Comparator} {items : ArrayValue} {rhs : Value}
    (hrhs : rhs.isArray = false) (hfits : rhs.Fits items.kind) (hdefined : c.DefinedFor items.kind) :
    (∃ e, (quantify settings q (.compare c) (.array items) rhs).outcome = .error e) ↔
      q.Exposes settings c items.elements rhs := by
  -- without elements the checks alone decide, and with them they are part of every comparison
  by_cases hempty : items.elements = []
  · rw [outcome_quantify_empty hrhs hempty (readableAs_iff.2 hfits) hdefined, hempty]
    constructor
    · rintro ⟨e, ⟨⟩⟩
    · rintro (⟨-, hne⟩ | ⟨before, v, after, hsplit, -⟩)
      · exact absurd rfl hne
      · cases before <;> cases hsplit
  rw [outcome_quantify_elements hrhs hempty, q.exists_walk_error_iff]
  have herror := fun v (hv : v ∈ items.elements) =>
    exists_error_element_iff settings hv hrhs hfits hdefined
  constructor
  · rintro ⟨before, v, after, hsplit, he, hbefore⟩
    by_cases hcompiles : c.Compilable settings rhs
    · have hv : v ∈ items.elements := by simp [hsplit]
      have hmixed := ((herror v hv).1 he).resolve_right (not_not.2 hcompiles)
      exact .inr ⟨before, v, after, hsplit, hmixed, hbefore⟩
    · exact .inl ⟨hcompiles, hempty⟩
  · rintro (⟨hcompiles, -⟩ | ⟨before, v, after, hsplit, hmixed, hbefore⟩)
    · obtain ⟨v, rest, hcons⟩ := List.exists_cons_of_ne_nil hempty
      have hv : v ∈ items.elements := by simp [hcons]
      exact ⟨[], v, rest, hcons, (herror v hv).2 (.inr hcompiles), nofun⟩
    · have hv : v ∈ items.elements := by simp [hsplit]
      exact ⟨before, v, after, hsplit, (herror v hv).2 (.inl hmixed), hbefore⟩

/-- A quantified comparison errs when the checks fail, and else by what the elements bring up. -/
theorem exists_quantify_error_iff {q : Quantifier} {c : Comparator} {items : ArrayValue}
    {rhs : Value} (hrhs : rhs.isArray = false) (patterns : settings.Patterns) :
    (∃ e, (quantify settings q (.compare c) (.array items) rhs).run' patterns = .error e) ↔
      ¬ (rhs.Fits items.kind ∧ c.DefinedFor items.kind) ∨
        q.Exposes settings c items.elements rhs := by
  rw [steady_quantify q (.compare c) (.array items) rhs patterns]
  by_cases hchecks : rhs.Fits items.kind ∧ c.DefinedFor items.kind
  · rw [exists_outcome_error_iff hrhs hchecks.1 hchecks.2, or_iff_right (not_not.2 hchecks)]
  · refine iff_of_true ?_ (.inl hchecks)
    cases h : (quantify settings q (.compare c) (.array items) rhs).outcome with
    | error e => exact ⟨e, rfl⟩
    | ok verdict =>
      obtain ⟨hread, hdefined⟩ := checks_of_outcome_quantify hrhs h
      exact absurd ⟨readableAs_iff.1 hread, hdefined⟩ hchecks

/-- Whether a quantified comparison errs goes by the kind of the array, but for two faults that its
elements bring up. So two arrays of a kind err alike if the pattern compiles, or if both or neither
are empty, and if no date-time in them is of another form than the right-hand side. -/
theorem quantify_fails (q : Quantifier) (c : Comparator) {a b : ArrayValue} (hkind : a.kind = b.kind)
    {rhs : Value} (hrhs : rhs.isArray = false) (patterns : settings.Patterns) :
    let fails := fun items : ArrayValue =>
      ∃ e, (quantify settings q (.compare c) (.array items) rhs).run' patterns = .error e
    let illTyped := ¬ (rhs.Fits a.kind ∧ c.DefinedFor a.kind)
    (fails a ↔ illTyped ∨ q.Exposes settings c a.elements rhs) ∧
    (fails b ↔ illTyped ∨ q.Exposes settings c b.elements rhs) ∧
    ((c.Compilable settings rhs ∨ (a.elements = [] ↔ b.elements = [])) →
      (∀ v ∈ a.elements ++ b.elements, ¬ v.MixedWith rhs) → (fails a ↔ fails b)) := by
  intro fails illTyped
  have ha : fails a ↔ illTyped ∨ q.Exposes settings c a.elements rhs :=
    exists_quantify_error_iff hrhs patterns
  have hb : fails b ↔ illTyped ∨ q.Exposes settings c b.elements rhs := by
    have h : fails b ↔ ¬ (rhs.Fits b.kind ∧ c.DefinedFor b.kind) ∨
        q.Exposes settings c b.elements rhs := exists_quantify_error_iff hrhs patterns
    rwa [← hkind] at h
  refine ⟨ha, hb, fun hpattern hforms => ?_⟩
  have hexposes : ∀ elements ⊆ a.elements ++ b.elements,
      (q.Exposes settings c elements rhs ↔ ¬ c.Compilable settings rhs ∧ elements ≠ []) := by
    intro elements hsub
    refine or_iff_left ?_
    rintro ⟨before, v, after, rfl, hmixed, -⟩
    exact hforms v (hsub (by simp)) hmixed
  rw [ha, hb, hexposes a.elements (List.subset_append_left _ _),
    hexposes b.elements (List.subset_append_right _ _)]
  rcases hpattern with hcompiles | hempty
  · simp [hcompiles]
  · rw [ne_eq, ne_eq, hempty]

/-- Texts against a pattern that compiles: no texts at all err as little as two of them. -/
theorem quantify_fails_texts :
    (ArrayValue.string []).kind = (ArrayValue.string ["x", "y"]).kind ∧
    (Value.string "a+").isArray = false ∧
    ((∃ e, (quantify .default .every (.compare .like) (.array (.string []))
        (.string "a+")).run' .empty = .error e) ↔
      ∃ e, (quantify .default .every (.compare .like) (.array (.string ["x", "y"]))
        (.string "a+")).run' .empty = .error e) := by
  have hkind : (ArrayValue.string []).kind = (ArrayValue.string ["x", "y"]).kind := rfl
  have hrhs : (Value.string "a+").isArray = false := rfl
  have hcompiles : Comparator.Compilable .default .like (.string "a+") := by
    rintro - pattern ⟨⟩
    exact (Option.isSome_iff_exists.2 ⟨_, by cbv⟩ : Settings.default.Compiles "a+")
  have hforms : ∀ v ∈ (ArrayValue.string []).elements ++ (ArrayValue.string ["x", "y"]).elements,
      ¬ v.MixedWith (.string "a+") := by
    rintro v hv ⟨t, -, rfl, -⟩
    have hmem : Value.dateTime t ∈ (ArrayValue.string ["x", "y"]).elements := hv
    cases (ArrayValue.of_mem_elements hmem).1
  exact ⟨hkind, hrhs, (quantify_fails .every .like hkind hrhs
    (.empty : Settings.default.Patterns)).2.2 (.inl hcompiles) hforms⟩

/-- The data can hide what is wrong with a filter: a pattern that does not compile is not seen where
there are no texts, and a timestamp beside an interval is not seen where the walk ends before it. -/
theorem quantify_fails_unseen :
    let likeOpen := fun texts => (quantify .default .any (.compare .like) (.array (.string texts))
      (.string "(")).run' .empty
    let eqZero := fun times => (quantify .default .any (.compare .eq) (.array (.dateTime times))
      (.dateTime (.interval 0))).run' .empty
    let midnight := DateTime.timestamp ⟨2024, 1, 1, 0, 0, 0, 0⟩ 0
    (likeOpen [] = .ok false ∧ ∃ e, likeOpen ["x"] = .error e) ∧
    eqZero [.interval 0, midnight] = .ok true ∧ ∃ e, eqZero [midnight, .interval 0] = .error e := by
  refine ⟨⟨by cbv, ?_⟩, by cbv, _, by cbv⟩
  refine (exists_quantify_error_iff rfl .empty).2 (.inr (.inl ⟨fun h => ?_, by decide⟩))
  exact not_compiles_open_group (h rfl "(" rfl)

end InstanceFilter
