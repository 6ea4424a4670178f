/-
Texts in place of date-times and references. A comparison, quantified or not, that finds texts on its
right where its left-hand side holds date-times or references comes to what it comes to with the
date-times or references that they are the texts of, error for error, and to a mismatch if one of
them is no such text. The left-hand side is never read so: texts on the left and date-times or
references on the right are always a mismatch.
-/
import InstanceFilter.Proofs.Evaluation.Typing

namespace InstanceFilter

open Judging

/-! ## What texts stand for -/

/-- The value that the texts of a value write, each read on its own. -/
inductive Value.ReadsAs : Value → Value → Prop
  | dateTime {text : String} {d : DateTime} (h : DateTime.parse text = .ok d) :
    ReadsAs (.string text) (.dateTime d)
  | reference {text : String} {path : ObjectPath} (h : ObjectPath.parse text = .ok path) :
    ReadsAs (.string text) (.reference path)
  | dateTimes {texts : List String} {ds : List DateTime}
    (h : List.Forall₂ (fun text d => DateTime.parse text = .ok d) texts ds) :
    ReadsAs (.array (.string texts)) (.array (.dateTime ds))
  | references {texts : List String} {paths : List ObjectPath}
    (h : List.Forall₂ (fun text path => ObjectPath.parse text = .ok path) texts paths) :
    ReadsAs (.array (.string texts)) (.array (.reference paths))

/-- What is read in place of texts is an array of one size with them, or a scalar like them. -/
theorem Value.ReadsAs.shape {v w : Value} (h : v.ReadsAs w) :
    w.isArray = v.isArray ∧ w.size? = v.size? := by
  cases h with
  | dateTimes h => exact ⟨rfl, congrArg some h.length_eq.symm⟩
  | references h => exact ⟨rfl, congrArg some h.length_eq.symm⟩
  | _ => exact ⟨rfl, rfl⟩

theorem coerce_of_readsAs {v w : Value} (h : v.ReadsAs w) : v.coerce w.kind = .ok w := by
  cases h with
  | dateTime h => exact map_eq_ok_iff.2 ⟨_, readDateTime_eq_ok_iff.2 h, rfl⟩
  | reference h => exact map_eq_ok_iff.2 ⟨_, readReference_eq_ok_iff.2 h, rfl⟩
  | dateTimes h =>
    have hitems := mapM_eq_ok_iff.2 (h.imp fun _ _ => readDateTime_eq_ok_iff.2)
    exact map_eq_ok_iff.2 ⟨_, hitems, rfl⟩
  | references h =>
    have hitems := mapM_eq_ok_iff.2 (h.imp fun _ _ => readReference_eq_ok_iff.2)
    exact map_eq_ok_iff.2 ⟨_, hitems, rfl⟩

/-- What texts are coerced to is what they are read as. -/
theorem readsAs_of_coerce {v w : Value} {kind : Kind} (hstring : v.kind = .string)
    (htarget : kind = .dateTime ∨ kind = .reference) (h : v.coerce kind = .ok w) :
    v.ReadsAs w := by
  cases v with
  | string text =>
    rcases htarget with rfl | rfl
    · obtain ⟨d, hd, rfl⟩ := map_eq_ok_iff.1 h
      exact .dateTime (readDateTime_eq_ok_iff.1 hd)
    · obtain ⟨path, hpath, rfl⟩ := map_eq_ok_iff.1 h
      exact .reference (readReference_eq_ok_iff.1 hpath)
  | array items => cases items with
    | string texts =>
      rcases htarget with rfl | rfl
      · obtain ⟨ds, hds, rfl⟩ := map_eq_ok_iff.1 h
        exact .dateTimes ((mapM_eq_ok_iff.1 hds).imp fun _ _ => readDateTime_eq_ok_iff.1)
      · obtain ⟨paths, hpaths, rfl⟩ := map_eq_ok_iff.1 h
        exact .references ((mapM_eq_ok_iff.1 hpaths).imp fun _ _ => readReference_eq_ok_iff.1)
    | _ => cases hstring
  | _ => cases hstring

/-- Texts that are all of one kind's can be read as that kind. -/
theorem exists_readsAs {v : Value} {kind : Kind} (hstring : v.kind = .string)
    (htarget : kind = .dateTime ∨ kind = .reference) (h : ∀ text ∈ v.texts, kind.Reads text) :
    ∃ w, v.ReadsAs w ∧ w.kind = kind := by
  obtain ⟨w, hw⟩ := (readableAs_iff_texts hstring htarget).2 h
  exact ⟨w, readsAs_of_coerce hstring htarget hw, (of_coerce hw).1⟩

/-! ## Comparisons with what was read -/

section Coerced

variable {settings : Settings} {op : Operator} {lhs rhs w : Value}

theorem align_of_coerce (h : rhs.coerce lhs.kind = .ok w) : align op lhs rhs = align op lhs w := by
  have hrhs : reconcile op lhs.type rhs = .ok w := reconcile_eq_ok_iff.2 h
  have hw : reconcile op lhs.type w = .ok w := reconcile_eq_ok_iff.2 (coerce_of_kind (of_coerce h).1)
  unfold align
  rw [hrhs, hw]

theorem compareValues_of_coerce (h : rhs.coerce lhs.kind = .ok w) :
    compareValues settings op lhs rhs = compareValues settings op lhs w := by
  unfold compareValues
  rw [align_of_coerce h]

theorem quantify_of_coerce {q : Quantifier} {items : ArrayValue} (hrhs : rhs.isArray = false)
    (h : rhs.coerce items.kind = .ok w) :
    quantify settings q op (.array items) rhs = quantify settings q op (.array items) w := by
  have hw : w.isArray = false := (of_coerce h).2.trans hrhs
  have hreconcile : reconcile op items.kind.scalar rhs = .ok w := reconcile_eq_ok_iff.2 h
  have hreconcile' : reconcile op items.kind.scalar w = .ok w :=
    reconcile_eq_ok_iff.2 (coerce_of_kind (of_coerce h).1)
  unfold quantify
  simp only [hrhs, hw, hreconcile, hreconcile', Bool.false_eq_true, if_false]

theorem compareValues_of_align_error (hlhs : lhs.isNull = false) {e : EvalError}
    (h : align op lhs rhs = .error e) : compareValues settings op lhs rhs = throw e := by
  rw [compareValues, if_neg (by rw [hlhs]; decide), h]
  rfl

theorem quantify_of_reconcile_error {q : Quantifier} {items : ArrayValue}
    (hrhs : rhs.isArray = false) {e : EvalError}
    (h : reconcile op items.kind.scalar rhs = .error e) :
    quantify settings q op (.array items) rhs = throw e := by
  unfold quantify
  simp only [hrhs, h]
  rfl

theorem reconcile_of_kind_ne {target : ValueType} (hkind : rhs.kind ≠ target.kind)
    (h : rhs.canCoerce target.kind = false) :
    reconcile op target rhs = .error (.typeMismatch op (.incomparable target rhs.type)) := by
  rw [reconcile, if_neg hkind, h]
  rfl

theorem isNull_of_kind_ne {v : Value} (h : v.kind ≠ .null) : v.isNull = false := by
  cases v with
  | null => exact absurd rfl h
  | _ => rfl

/-- A text that is none of the kind's keeps the operands from being aligned. -/
theorem compareValues_of_unread {c : Comparator} (hlhs : lhs.kind = .dateTime ∨ lhs.kind = .reference)
    (hrhs : rhs.kind = .string) {text : String} (htext : text ∈ rhs.texts)
    (h : ¬ lhs.kind.Reads text) : ∃ cause,
      compareValues settings (.compare c) lhs rhs = throw (.typeMismatch (.compare c) cause) := by
  have hnull : lhs.isNull = false :=
    isNull_of_kind_ne fun hkind => by rcases hlhs with h | h <;> cases hkind.symm.trans h
  cases halign : align (.compare c) lhs rhs with
  | ok w =>
    have hreads := (readableAs_iff_texts hrhs hlhs).1 ⟨w, (align_eq_ok_iff.1 halign).1⟩
    exact absurd (hreads text htext) h
  | error e =>
    obtain ⟨cause, rfl⟩ := isMismatch_of_align halign
    exact ⟨cause, compareValues_of_align_error hnull halign⟩

/-! ### Kinds that are never read as another -/

theorem compareValues_of_kind_ne (hlhs : lhs.isNull = false) (hkind : rhs.kind ≠ lhs.kind)
    (h : rhs.canCoerce lhs.kind = false) :
    compareValues settings op lhs rhs =
      throw (.typeMismatch op (.incomparable lhs.type rhs.type)) := by
  refine compareValues_of_align_error hlhs ?_
  unfold align
  rw [reconcile_of_kind_ne hkind h]
  rfl

theorem quantify_of_kind_ne {q : Quantifier} {items : ArrayValue} (hrhs : rhs.isArray = false)
    (hkind : rhs.kind ≠ items.kind) (h : rhs.canCoerce items.kind = false) :
    quantify settings q op (.array items) rhs =
      throw (.typeMismatch op (.incomparable items.kind.scalar rhs.type)) :=
  quantify_of_reconcile_error hrhs (reconcile_of_kind_ne hkind h)

end Coerced

variable {settings : Settings}

/-- Texts on the right stand for the date-times or references that they write, and on the left they
stand for themselves. Where the left-hand side holds date-times or references, texts that are all
texts of such can be read one by one, to a value of their size and shape, and the comparison is then
the same judgement as with that value, error for error; so is a quantified comparison with one text.
One text that cannot be read makes a mismatch. Texts on the left of date-times or references are a
mismatch whatever they say, also under a quantifier. -/
theorem compareValues_coerced (c : Comparator) :
    (∀ lhs rhs : Value, lhs.kind = .dateTime ∨ lhs.kind = .reference → rhs.kind = .string →
      ((∀ text ∈ rhs.texts, lhs.kind.Reads text) → ∃ w, rhs.ReadsAs w ∧ w.kind = lhs.kind) ∧
      (∀ w, rhs.ReadsAs w → w.kind = lhs.kind →
        w.isArray = rhs.isArray ∧ w.size? = rhs.size? ∧
        compareValues settings (.compare c) lhs rhs = compareValues settings (.compare c) lhs w) ∧
      ((∃ text ∈ rhs.texts, ¬ lhs.kind.Reads text) → ∃ cause,
        compareValues settings (.compare c) lhs rhs = throw (.typeMismatch (.compare c) cause))) ∧
    (∀ (q : Quantifier) (items : ArrayValue) (rhs w : Value), rhs.isArray = false →
      rhs.ReadsAs w → w.kind = items.kind →
      quantify settings q (.compare c) (.array items) rhs =
        quantify settings q (.compare c) (.array items) w) ∧
    (∀ lhs rhs : Value, lhs.kind = .string → rhs.kind = .dateTime ∨ rhs.kind = .reference →
      compareValues settings (.compare c) lhs rhs =
        throw (.typeMismatch (.compare c) (.incomparable lhs.type rhs.type))) ∧
    ∀ (q : Quantifier) (texts : List String) (rhs : Value), rhs.isArray = false →
      rhs.kind = .dateTime ∨ rhs.kind = .reference →
      quantify settings q (.compare c) (.array (.string texts)) rhs =
        throw (.typeMismatch (.compare c) (.incomparable Kind.string.scalar rhs.type)) := by
  have hcoerce {v w : Value} {kind : Kind} (h : v.ReadsAs w) (hkind : w.kind = kind) :
      v.coerce kind = .ok w := hkind ▸ coerce_of_readsAs h
  have hcannot {rhs : Value} (hrhs : rhs.kind = .dateTime ∨ rhs.kind = .reference) :
      rhs.kind ≠ .string ∧ rhs.canCoerce .string = false := by
    unfold Value.canCoerce
    rcases hrhs with h | h <;> rw [h] <;> decide
  refine ⟨fun lhs rhs hlhs hrhs => ⟨exists_readsAs hrhs hlhs, fun w hw hkind => ?_, ?_⟩,
    fun q items rhs w hscalar hw hkind => quantify_of_coerce hscalar (hcoerce hw hkind),
    fun lhs rhs hlhs hrhs => ?_, fun q texts rhs hscalar hrhs => ?_⟩
  · exact ⟨hw.shape.1, hw.shape.2, compareValues_of_coerce (hcoerce hw hkind)⟩
  · rintro ⟨text, htext, hnot⟩
    exact compareValues_of_unread hlhs hrhs htext hnot
  · have hnull : lhs.isNull = false := isNull_of_kind_ne (by rw [hlhs]; decide)
    rw [← hlhs] at hcannot
    exact compareValues_of_kind_ne hnull (hcannot hrhs).1 (hcannot hrhs).2
  · exact quantify_of_kind_ne hscalar (hcannot hrhs).1 (hcannot hrhs).2

/-- Two days against an array of two texts: as with the days that they write, the first in another
offset. -/
theorem compareValues_coerced_days :
    let days := Value.array (.dateTime [.timestamp ⟨2024, 1, 1, 0, 0, 0, 0⟩ 0, .interval 0])
    let texts := Value.array (.string ["20240101010000.000000+060", "00000000000000.000000:000"])
    texts.kind = .string ∧ days.kind = .dateTime ∧
      compareValues .default (.compare .eq) days texts =
        compareValues .default (.compare .eq) days
          (.array (.dateTime [.timestamp ⟨2024, 1, 1, 1, 0, 0, 0⟩ 60, .interval 0])) ∧
      (compareValues .default (.compare .eq) texts days).run' .empty =
        .error (.typeMismatch (.compare .eq) (.incomparable Kind.string.array Kind.dateTime.array)) := by
  intro days texts
  have hreads : texts.ReadsAs
      (.array (.dateTime [.timestamp ⟨2024, 1, 1, 1, 0, 0, 0⟩ 60, .interval 0])) := by
    refine .dateTimes (.cons ?_ (.cons ?_ .nil))
    · cbv
    · cbv
  obtain ⟨htransparent, -, honeway, -⟩ := @compareValues_coerced .default .eq
  refine ⟨rfl, rfl, ?_, ?_⟩
  · exact ((htransparent days texts (.inl rfl) rfl).2.1 _ hreads rfl).2.2
  · rw [honeway texts days rfl (.inl rfl)]
    rfl

end InstanceFilter
