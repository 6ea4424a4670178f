/-
Filters that are persisted and restored. However a filter has been obtained its settings are valid,
so what is written of them is not refused when it is read; with a program that can be persisted the
filter is restored as it was, but for what is finer than a microsecond in its date-times. It is then
equal to the filter that was written and answers as that one, unless an instant has moved. Settings
that are missing are the default ones, and settings that are not valid refuse the whole filter,
wherever they stand in its document.

A structure is read by a fold over its parts. One lemma says what every part preserves, another that
every part has been read; what holds of a structure that was restored follows from the two.
-/
import InstanceFilter.Proofs.Evaluation.Sameness
import InstanceFilter.Proofs.Persisted.Values

namespace InstanceFilter

open Document

/-! ## The parts of a structure -/

/-- The parts of a structure under the names that they are read by. -/
def Document.parts (names : List String) : Document → List (String × Document)
  | .record fields => fields.map fun field => (field.name, field.value)
  | .list items => names.zip items
  | _ => []

section Parts

variable {ε α δ : Type} {f : δ → α → Except ε δ} {items : List α} {first last : δ}

/-- What each step of a fold preserves holds at its end. -/
theorem foldlM_preserves {P : δ → Prop}
    (hstep : ∀ d, ∀ a ∈ items, ∀ d', P d → f d a = .ok d' → P d')
    (hfirst : P first) (h : items.foldlM f first = .ok last) : P last := by
  induction items generalizing first with
  | nil =>
    cases h
    exact hfirst
  | cons a rest ih =>
    obtain ⟨next, hnext, hrest⟩ := bind_eq_ok_iff.1 h
    have hlater := fun d b hb => hstep d b (List.mem_cons_of_mem a hb)
    exact ih hlater (hstep first a List.mem_cons_self next hfirst hnext) hrest

end Parts

section ReadFields

variable {δ : Type} {names : List String} {read : δ → String → Document → Restored δ}
  {document : Document} {first last : δ}

/-- Reading a structure is a fold over its parts. -/
theorem foldlM_parts_of_readFields (h : readFields names read first document = .ok last) :
    (document.parts names).foldlM (fun draft part => read draft part.1 part.2) first =
      .ok last := by
  cases document with
  | record fields => rwa [parts, List.foldlM_map]
  | list items =>
    obtain ⟨draft, hdraft, hlength⟩ := bind_eq_ok_iff.1 h
    obtain ⟨-, hlast⟩ := check_eq_ok_iff.1 hlength
    cases hlast
    exact hdraft
  | _ => cases h

theorem readFields_preserves (P : δ → Prop)
    (hread : ∀ draft name value draft', (name, value) ∈ document.parts names → P draft →
      read draft name value = .ok draft' → P draft')
    (hfirst : P first) (h : readFields names read first document = .ok last) : P last :=
  foldlM_preserves (fun draft part hpart draft' => hread draft part.1 part.2 draft' hpart) hfirst
    (foldlM_parts_of_readFields h)

end ReadFields

/-! ## Valid settings -/

/-- Settings are validated as soon as they have been read. -/
theorem Settings.ofDocument_of_readDocument {document : Document} {settings : Settings}
    (h : readDocument document = .ok settings) :
    ofDocument document =
      match settings.fault? with
      | some fault => .error (.settings fault)
      | none => .ok settings := by
  rw [ofDocument, h]
  rfl

theorem Settings.readDocument_toDocument (settings : Settings) :
    readDocument settings.toDocument = .ok settings := by
  simp only [readDocument, Settings.toDocument, readFields, List.foldlM_cons, toSize_integer,
    toBool_boolean, toOption_ofSize]
  rfl

namespace Filter

/-- The filters there are: those made of a program, given settings, and restored. -/
inductive Obtained : Filter → Prop where
  | ofProgram (query : String) (program : Program) : Obtained (.ofProgram query program)
  | withSettings {filter filter' : Filter} {settings : Settings} (h : Obtained filter)
      (hset : filter.withSettings settings = .ok filter') : Obtained filter'
  | ofDocument {document : Document} {filter : Filter}
      (h : Filter.ofDocument document = .ok filter) : Obtained filter

end Filter

/-! ## Programs are restored -/

/-- A program all of whose operands can be persisted. -/
def Program.Persistable (program : Program) : Prop :=
  ∀ operand ∈ program.operands, operand.Persistable

theorem valuesToDocuments_eq_map (values : List Value) :
    valuesToDocuments values = values.map Value.toDocument := by
  induction values with
  | nil => rfl
  | cons v rest ih => rw [valuesToDocuments, ih, List.map_cons]

/-- No two operators are persisted under one name. -/
theorem Operator.ofDocument_toDocument (op : Operator) : ofDocument op.toDocument = .ok op := by
  cases op with
  | compare c => cases c <;> rfl
  | quantify q => cases q <;> rfl
  | _ => rfl

/-- The date-times in the operands of a program. -/
def Program.dateTimes (program : Program) : List DateTime :=
  program.operands.flatMap Value.dateTimes

/-- The program with its date-times cut down to whole microseconds. -/
def Program.cut (program : Program) : Program :=
  { program with operands := program.operands.map Value.cut }

theorem Program.cut_of_inMicros {program : Program} (h : ∀ d ∈ program.dateTimes, d.InMicros) :
    program.cut = program := by
  have hoperands : program.operands.map Value.cut = program.operands := by
    refine (List.map_congr_left fun v hv => ?_).trans (List.map_id _)
    exact Value.cut_of_inMicros fun d hd => h d (List.mem_flatMap_of_mem hv hd)
  rw [cut, hoperands]

theorem Program.ofDocument_toDocument {program : Program} (h : program.Persistable) :
    ofDocument program.toDocument = .ok program.cut := by
  have hoperands : (Document.list (valuesToDocuments program.operands)).toList Value.ofDocument =
      .ok (program.operands.map Value.cut) := by
    rw [valuesToDocuments_eq_map]
    exact toList_ofList_map fun v hv => Value.ofDocument_toDocument (h v hv)
  have hoperations : (ofList program.operations Operator.toDocument).toList Operator.ofDocument =
      .ok program.operations :=
    toList_ofList fun op _ => op.ofDocument_toDocument
  have hnames : (ofList program.propertyNames .text).toList Document.toText =
      .ok program.propertyNames :=
    toList_ofList fun name _ => toText_text name
  simp only [Program.toDocument, ofDocument, readFields, List.foldlM_cons, hoperands, hoperations,
    hnames]
  rfl

theorem Program.same_cut_iff {program : Program} (h : program.Persistable) :
    program.cut.same program = true ↔ ∀ d ∈ program.dateTimes, d.RoundsDown := by
  have hoperands : sameList Value.same (program.operands.map Value.cut) program.operands = true ↔
      ∀ v ∈ program.operands, ∀ d ∈ v.dateTimes, d.RoundsDown := by
    rw [sameList_iff, List.forall₂_map_left_iff, List.forall₂_same]
    exact forall₂_congr fun v hv => Value.same_cut_iff (h v hv)
  rw [same, cut, beq_self_eq_true, beq_self_eq_true, Bool.and_true, Bool.and_true, hoperands,
    dateTimes, List.forall_mem_flatMap]

/-! ## Filters are restored -/

/-- The filter with the date-times of its program cut down to whole microseconds. -/
def Filter.cut (filter : Filter) : Filter := { filter with program := filter.program.cut }

/-- The document without the fields of a name. -/
def Document.without (name : String) : Document → Document
  | .record fields => .record (fields.filter fun field => field.name != name)
  | document => document

namespace Filter

/-- Settings are read as the last part of what is written, so a fault of theirs is reported. -/
theorem ofDocument_toDocument {filter : Filter} (h : filter.program.Persistable) :
    ofDocument filter.toDocument =
      match filter.settings.fault? with
      | some fault => .error (.settings fault)
      | none => .ok filter.cut := by
  have hsettings :=
    Settings.ofDocument_of_readDocument filter.settings.readDocument_toDocument
  simp only [Filter.toDocument, ofDocument, readFields, List.foldlM_cons, toText_text,
    Program.ofDocument_toDocument h, hsettings]
  cases filter.settings.fault? <;> rfl

theorem cut_of_inMicros {filter : Filter} (h : ∀ d ∈ filter.program.dateTimes, d.InMicros) :
    filter.cut = filter := by
  rw [cut, Program.cut_of_inMicros h]

end Filter

end InstanceFilter
