/-
The typing of comparisons. A comparison asks five things of its operands: that the right-hand side
is of the kind of the left-hand side or can be read as such, that both are arrays or both scalars,
that the operator is defined on the left-hand side, that two date-times are of one form, and that a
pattern compiles. The program asks them one after the other and converts the right-hand side on the
way; here they are said of the operands as they stand, and a comparison comes to a verdict exactly
when all five hold. What fails tells the error: an ill-typed comparison names its operator, and only
one that is well typed reports its pattern.
-/
import InstanceFilter.Proofs.Evaluation.Quantification

namespace InstanceFilter

open Judging

/-! ## The rule -/

/-- The texts of a string or of an array of strings. -/
def Value.texts : Value → List String
  | .string text => [text]
  | .array (.string items) => items
  | _ => []

/-- The text is one of a date-time or of a reference, as the kind says; the other kinds have none. -/
def Kind.Reads : Kind → String → Prop
  | .dateTime, text => ∃ d, DateTime.parse text = .ok d
  | .reference, text => ∃ path, ObjectPath.parse text = .ok path
  | _, _ => False

/-- The value is of the kind, or it holds nothing but texts of date-times or of references. -/
def Value.Fits (v : Value) (kind : Kind) : Prop :=
  v.kind = kind ∨
    (kind = .dateTime ∨ kind = .reference) ∧ v.kind = .string ∧ ∀ text ∈ v.texts, kind.Reads text

/-- The value is a date-time or the text of one. -/
def Value.StandsFor (v : Value) (d : DateTime) : Prop :=
  v = .dateTime d ∨ ∃ text, v = .string text ∧ DateTime.parse text = .ok d

/-- What can be said against a comparison without looking at a pattern. -/
structure Comparator.WellTyped (c : Comparator) (lhs rhs : Value) : Prop where
  kinds : rhs.Fits lhs.kind
  arrays : lhs.isArray = rhs.isArray
  ordered : c.isOrdering = true →
    lhs.isArray = false ∧ lhs.kind ∈ [.integer, .double, .string, .dateTime]
  textual : c.isPattern = true → lhs.isArray = false ∧ lhs.kind = .string
  forms : ∀ a b, lhs = .dateTime a → rhs.StandsFor b → a.isInterval = b.isInterval

/-- The pattern, set between its anchors, compiles within the limit of the settings. -/
def Settings.Compiles (settings : Settings) (pattern : String) : Prop :=
  (Pattern.compileWithin? settings.patternSizeLimit.toNat settings.caseInsensitiveLike
    pattern.toList).isSome = true

/-- The right-hand side of a pattern comparison is a pattern that compiles. -/
def Comparator.Compilable (settings : Settings) (c : Comparator) (rhs : Value) : Prop :=
  c.isPattern = true → ∀ pattern, rhs = .string pattern → settings.Compiles pattern

/-! ## Kinds -/

theorem readDateTime_eq_ok_iff {text : String} {d : DateTime} :
    Value.readDateTime text = .ok d ↔ DateTime.parse text = .ok d :=
  mapError_eq_ok_iff

theorem readReference_eq_ok_iff {text : String} {path : ObjectPath} :
    Value.readReference text = .ok path ↔ ObjectPath.parse text = .ok path :=
  mapError_eq_ok_iff

theorem canCoerce_iff {v : Value} {kind : Kind} :
    v.canCoerce kind = true ↔ (kind = .dateTime ∨ kind = .reference) ∧ v.kind = .string := by
  unfold Value.canCoerce
  cases v.kind <;> simp [Kind.coercions]

/-- A string is read by its text, and an array of strings by all of them. -/
theorem readableAs_iff_texts {v : Value} {kind : Kind} (hstring : v.kind = .string)
    (htarget : kind = .dateTime ∨ kind = .reference) :
    v.ReadableAs kind ↔ ∀ text ∈ v.texts, kind.Reads text := by
  have hscalar (text : String) :
      (Value.string text).ReadableAs kind ↔ kind.Reads text := by
    rcases htarget with rfl | rfl
    · exact exists_map_eq_ok_iff.trans (exists_congr fun _ => readDateTime_eq_ok_iff)
    · exact exists_map_eq_ok_iff.trans (exists_congr fun _ => readReference_eq_ok_iff)
  have harray (items : List String) :
      (Value.array (.string items)).ReadableAs kind ↔ ∀ text ∈ items, kind.Reads text := by
    rcases htarget with rfl | rfl
    · refine exists_map_eq_ok_iff.trans (exists_mapM_eq_ok_iff.trans ?_)
      exact forall₂_congr fun _ _ => exists_congr fun _ => readDateTime_eq_ok_iff
    · refine exists_map_eq_ok_iff.trans (exists_mapM_eq_ok_iff.trans ?_)
      exact forall₂_congr fun _ _ => exists_congr fun _ => readReference_eq_ok_iff
  cases v with
  | string text => exact (hscalar text).trans List.forall_mem_singleton.symm
  | array items => cases items with
    | string items => exact harray items
    | _ => cases hstring
  | _ => cases hstring

/-- A value can be read as one of a kind exactly when it fits the kind. -/
theorem readableAs_iff {v : Value} {kind : Kind} : v.ReadableAs kind ↔ v.Fits kind := by
  unfold Value.Fits
  by_cases hkind : v.kind = kind
  · exact ⟨fun _ => .inl hkind, fun _ => ⟨v, coerce_of_kind hkind⟩⟩
  rw [or_iff_right hkind]
  constructor
  · rintro ⟨w, hw⟩
    obtain ⟨htarget, hstring⟩ := canCoerce_iff.1 (canCoerce_of_coerce hw hkind)
    exact ⟨htarget, hstring, (readableAs_iff_texts hstring htarget).1 ⟨w, hw⟩⟩
  · rintro ⟨htarget, hstring, htexts⟩
    exact (readableAs_iff_texts hstring htarget).2 htexts

/-- What reads as a date-time is one or the text of one. -/
theorem coerce_eq_dateTime_iff {v : Value} {d : DateTime} :
    v.coerce .dateTime = .ok (.dateTime d) ↔ v.StandsFor d := by
  unfold Value.StandsFor
  by_cases hkind : v.kind = .dateTime
  · rw [coerce_of_kind hkind]
    constructor
    · intro h
      exact .inl (Except.ok.inj h)
    · rintro (rfl | ⟨text, rfl, -⟩)
      · rfl
      · cases hkind
  · constructor
    · intro h
      obtain ⟨-, hstring⟩ := canCoerce_iff.1 (canCoerce_of_coerce h hkind)
      cases v with
      | string text =>
        obtain ⟨d', hd', heq⟩ := map_eq_ok_iff.1 h
        cases heq
        exact .inr ⟨text, rfl, readDateTime_eq_ok_iff.1 hd'⟩
      | array items =>
        have harray := (of_coerce h).2
        cases harray
      | _ => cases hstring
    · rintro (rfl | ⟨text, rfl, htext⟩)
      · exact absurd rfl hkind
      · exact map_eq_ok_iff.2 ⟨d, readDateTime_eq_ok_iff.2 htext, rfl⟩

/-! ## Alignment -/

theorem checkOperator_type_eq_ok_iff {c : Comparator} {type : ValueType} :
    checkOperator (.compare c) type = .ok () ↔
      (c.isOrdering = true → type.isArray = false ∧ type.kind.isOrdered = true) ∧
        (c.isPattern = true → type.isArray = false ∧ type.kind = .string) := by
  rw [checkOperator, check_eq_ok_iff, check_eq_ok_iff]
  simp [Operator.isOrdering, Operator.isPattern]

theorem isOrdered_iff {kind : Kind} :
    kind.isOrdered = true ↔ kind ∈ [Kind.integer, .double, .string, .dateTime] := by
  cases kind <;> decide

theorem formsAgree_iff {v w : Value} :
    v.formsAgree w = true ↔
      ∀ a b, v = .dateTime a → w = .dateTime b → a.isInterval = b.isInterval := by
  unfold Value.formsAgree
  split
  · next a b =>
    rw [beq_iff_eq]
    constructor
    · rintro h _ _ ⟨⟩ ⟨⟩
      exact h
    · exact fun h => h a b rfl rfl
  · next hne => exact iff_of_true rfl fun a b hv hw => absurd hw (hne a b hv)

theorem align_eq_ok_iff {op : Operator} {lhs rhs w : Value} :
    align op lhs rhs = .ok w ↔ rhs.coerce lhs.kind = .ok w ∧ lhs.isArray = rhs.isArray ∧
      checkOperator op lhs.type = .ok () ∧ lhs.formsAgree w = true := by
  unfold align
  rw [bind_eq_ok_iff]
  constructor
  · rintro ⟨w', hw', h⟩
    have hcoerce := reconcile_eq_ok_iff.1 hw'
    obtain ⟨harrays, h⟩ := check_eq_ok_iff.1 h
    obtain ⟨u, hchecked, h⟩ := bind_eq_ok_iff.1 h
    split at h
    · next hforms =>
      cases h
      refine ⟨hcoerce, ?_, hchecked, hforms⟩
      rw [← (of_coerce hcoerce).2]
      simpa using harrays
    · cases h
  · rintro ⟨hcoerce, harrays, hchecked, hforms⟩
    refine ⟨w, reconcile_eq_ok_iff.2 hcoerce, check_eq_ok_iff.2 ⟨?_, ?_⟩⟩
    · simp [harrays, (of_coerce hcoerce).2]
    · exact bind_eq_ok_iff.2 ⟨(), hchecked, if_pos hforms⟩

/-- The operands of a comparison can be aligned exactly when it is well typed. -/
theorem exists_align_iff {c : Comparator} {lhs rhs : Value} :
    (∃ w, align (.compare c) lhs rhs = .ok w) ↔ c.WellTyped lhs rhs := by
  simp only [align_eq_ok_iff, checkOperator_type_eq_ok_iff, isOrdered_iff, formsAgree_iff]
  constructor
  · rintro ⟨w, hcoerce, harrays, ⟨hordered, htextual⟩, hforms⟩
    -- the forms are compared after the conversion, while the rule is about what is converted
    refine ⟨readableAs_iff.1 ⟨w, hcoerce⟩, harrays, hordered, htextual, ?_⟩
    rintro a b rfl hb
    cases hcoerce.symm.trans (coerce_eq_dateTime_iff.2 hb)
    exact hforms a b rfl rfl
  · intro h
    obtain ⟨w, hw⟩ := readableAs_iff.2 h.kinds
    refine ⟨w, hw, h.arrays, ⟨h.ordered, h.textual⟩, ?_⟩
    rintro a b rfl rfl
    exact h.forms a b rfl (coerce_eq_dateTime_iff.1 hw)

/-! ## Judgement -/

variable {settings : Settings}

/-- Nothing but a pattern can keep aligned operands from being judged. -/
theorem outcome_judge {c : Comparator} (h : c.isPattern = false) (lhs rhs : Value) :
    ∃ verdict, (c.judge settings lhs rhs).outcome = .ok verdict := by
  cases c with
  | like => cases h
  | notLike => cases h
  | _ => exact ⟨_, rfl⟩

theorem outcome_judge_texts {c : Comparator} (h : c.isPattern = true) (text pattern : String) :
    (settings.Compiles pattern → ∃ verdict,
      (c.judge settings (.string text) (.string pattern)).outcome = .ok verdict) ∧
    (¬ settings.Compiles pattern →
      (c.judge settings (.string text) (.string pattern)).outcome =
        .error (.invalidPattern pattern)) := by
  have hmatch (f : Bool → Bool) :
      (settings.Compiles pattern → ∃ verdict,
        (f <$> matchLike settings pattern text).outcome = .ok verdict) ∧
      (¬ settings.Compiles pattern →
        (f <$> matchLike settings pattern text).outcome = .error (.invalidPattern pattern)) := by
    unfold Settings.Compiles outcome
    rw [run'_map, run'_matchLike, Pattern.like?]
    cases Pattern.compileWithin? settings.patternSizeLimit.toNat settings.caseInsensitiveLike
      pattern.toList with
    | some e => exact ⟨fun _ => ⟨_, rfl⟩, fun h => absurd rfl h⟩
    | none => exact ⟨nofun, fun _ => rfl⟩
  cases c with
  | like => exact hmatch fun matched => matched
  | notLike => exact hmatch fun matched => !matched
  | _ => cases h

/-- The left-hand side and the right-hand side of a well typed pattern comparison are texts. -/
theorem Comparator.WellTyped.texts {c : Comparator} {lhs rhs : Value} (h : c.WellTyped lhs rhs)
    (hc : c.isPattern = true) : ∃ text pattern, lhs = .string text ∧ rhs = .string pattern := by
  obtain ⟨hscalar, hkind⟩ := h.textual hc
  have hrhs : rhs.kind = .string := by
    rcases h.kinds with hkinds | ⟨htarget, hstring, -⟩
    · exact hkinds.trans hkind
    · exact hstring
  have harray : rhs.isArray = false := h.arrays.symm.trans hscalar
  cases lhs with
  | string text => cases rhs with
    | string pattern => exact ⟨text, pattern, rfl, rfl⟩
    | array items => cases harray
    | _ => cases hrhs
  | array items => cases hscalar
  | _ => cases hkind

/-! ## The typing of comparisons -/

section Outcome

variable {c : Comparator} {lhs rhs : Value}

theorem outcome_of_not_wellTyped (settings : Settings) (hlhs : lhs.isNull = false)
    (h : ¬ c.WellTyped lhs rhs) :
    ∃ cause, (compareValues settings (.compare c) lhs rhs).outcome =
      .error (.typeMismatch (.compare c) cause) := by
  rw [outcome_compareValues hlhs]
  cases ha : align (.compare c) lhs rhs with
  | ok w => exact absurd (exists_align_iff.1 ⟨w, ha⟩) h
  | error e =>
    obtain ⟨cause, rfl⟩ := isMismatch_of_align ha
    exact ⟨cause, rfl⟩

/-- Operands of one kind are judged as they stand. -/
theorem outcome_compareValues_of_kind (h : c.WellTyped lhs rhs) (hlhs : lhs.isNull = false)
    (hkind : rhs.kind = lhs.kind) : (compareValues settings (.compare c) lhs rhs).outcome =
      (c.judge settings lhs rhs).outcome := by
  obtain ⟨w, ha⟩ := exists_align_iff.2 h
  cases (align_eq_ok_iff.1 ha).1.symm.trans (coerce_of_kind hkind)
  rw [outcome_compareValues hlhs, ha]
  rfl

theorem exists_outcome_of_wellTyped (hlhs : lhs.isNull = false) (h : c.WellTyped lhs rhs)
    (hcompiles : c.Compilable settings rhs) :
    ∃ verdict, (compareValues settings (.compare c) lhs rhs).outcome = .ok verdict := by
  cases hc : c.isPattern with
  | true =>
    obtain ⟨text, pattern, rfl, rfl⟩ := h.texts hc
    rw [outcome_compareValues_of_kind h rfl rfl]
    exact (outcome_judge_texts hc text pattern).1 (hcompiles hc pattern rfl)
  | false =>
    obtain ⟨w, ha⟩ := exists_align_iff.2 h
    rw [outcome_compareValues hlhs, ha]
    exact outcome_judge hc lhs w

theorem outcome_of_not_compilable (h : c.WellTyped lhs rhs)
    (hcompiles : ¬ c.Compilable settings rhs) : ∃ pattern, rhs = .string pattern ∧
      (compareValues settings (.compare c) lhs rhs).outcome = .error (.invalidPattern pattern) := by
  simp only [Comparator.Compilable, not_forall] at hcompiles
  obtain ⟨hc, pattern, hrhs, hpattern⟩ := hcompiles
  obtain ⟨text, pattern', rfl, rfl⟩ := h.texts hc
  cases hrhs
  exact ⟨pattern, rfl, (outcome_compareValues_of_kind h rfl rfl).trans
    ((outcome_judge_texts hc text pattern).2 hpattern)⟩

end Outcome

/-- The typing rule of a comparison is exact. With something on its left it comes to a verdict
exactly when it is well typed and its pattern, if it has one, compiles. When it is ill typed it is a
mismatch under its operator; when only the pattern does not compile, that pattern is reported; and
there is no other error. -/
theorem compareValues_typing (c : Comparator) {lhs : Value} (hlhs : lhs.isNull = false)
    (rhs : Value) (patterns : settings.Patterns) :
    let result := (compareValues settings (.compare c) lhs rhs).run' patterns
    ((∃ verdict, result = .ok verdict) ↔ c.WellTyped lhs rhs ∧ c.Compilable settings rhs) ∧
    (¬ c.WellTyped lhs rhs → ∃ cause, result = .error (.typeMismatch (.compare c) cause)) ∧
    (c.WellTyped lhs rhs → ¬ c.Compilable settings rhs →
      ∃ pattern, rhs = .string pattern ∧ result = .error (.invalidPattern pattern)) ∧
    ∀ e, result = .error e →
      (∃ cause, e = .typeMismatch (.compare c) cause) ∨ ∃ pattern, e = .invalidPattern pattern := by
  intro result
  have hresult : result = (compareValues settings (.compare c) lhs rhs).outcome :=
    steady_compareValues (.compare c) lhs rhs patterns
  rw [hresult]
  -- whichever of the three it is, the other two are ruled out by what the outcome is
  by_cases hwell : c.WellTyped lhs rhs
  · by_cases hcompiles : c.Compilable settings rhs
    · obtain ⟨verdict, h⟩ := exists_outcome_of_wellTyped hlhs hwell hcompiles
      simp [h, hwell, hcompiles]
    · obtain ⟨pattern, rfl, h⟩ := outcome_of_not_compilable hwell hcompiles
      simp [h, hwell, hcompiles]
  · obtain ⟨cause, h⟩ := outcome_of_not_wellTyped settings hlhs hwell
    simp [h, hwell]

theorem not_compiles_open_group : ¬ Settings.default.Compiles "(" := by
  have hnone : Pattern.compileWithin? Settings.default.patternSizeLimit.toNat
      Settings.default.caseInsensitiveLike "(".toList = none := by cbv
  rw [Settings.Compiles, hnone]
  exact Bool.false_ne_true

/-- A text against a pattern whose group stays open: the types are in order, the pattern is not. -/
theorem compareValues_typing_open_group :
    (Value.string "x").isNull = false ∧
    (compareValues .default (.compare .like) (.string "x") (.string "(")).run' .empty =
      .error (.invalidPattern "(") := by
  have hlhs : (Value.string "x").isNull = false := rfl
  have hwell : Comparator.WellTyped .like (.string "x") (.string "(") :=
    ⟨.inl rfl, rfl, nofun, fun _ => ⟨rfl, rfl⟩, nofun⟩
  obtain ⟨pattern, hrhs, h⟩ := (compareValues_typing .like hlhs (.string "(")
    (.empty : Settings.default.Patterns)).2.2.1 hwell
    fun h => not_compiles_open_group (h rfl "(" rfl)
  cases hrhs
  exact ⟨hlhs, h⟩

end InstanceFilter
