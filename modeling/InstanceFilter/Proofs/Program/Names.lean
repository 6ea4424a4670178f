/-
The property names of a program. Recording a name answers whether it is new, in any case of its
letters, and changes nothing when it is not; so a program that is built from nothing has each name
once. A program that is restored has the names that its document lists, which are not compared with
each other: those that the document repeats are repeated, whatever is recorded after them, until the
program is cleared.
-/
import InstanceFilter.Proofs.Persisted.RoundTrip

namespace InstanceFilter

open Document

namespace Program

/-- A call that changes a program. -/
inductive Call where
  | addOperand (operand : Value)
  | addOperation (operation : Operator)
  | chainLast (link : Value)
  | addPropertyName (name : String)
  | clear

/-- A link that is refused leaves the program as it is. -/
def Call.applyTo (program : Program) : Call → Program
  | .addOperand operand => program.addOperand operand
  | .addOperation operation => program.addOperation operation
  | .chainLast link => (program.chainLast link).toOption.getD program
  | .addPropertyName name => (program.addPropertyName name).1
  | .clear => .empty

def afterCalls (start : Program) (calls : List Call) : Program := calls.foldl Call.applyTo start

/-- No two of the names are the same. -/
def NamesDistinct (program : Program) : Prop :=
  program.propertyNames.Pairwise fun a b => Text.sameName a b = false

instance (program : Program) : Decidable program.NamesDistinct :=
  inferInstanceAs (Decidable (program.propertyNames.Pairwise fun a b => Text.sameName a b = false))

variable {program : Program} {name : String}

/-! ## Recording a name -/

theorem knowsProperty_eq_false_iff : program.knowsProperty name = false ↔
    ∀ known ∈ program.propertyNames, Text.sameName known name = false := by
  rw [knowsProperty, List.any_eq_false]
  simp only [Bool.not_eq_true]

theorem knowsProperty_eq_true_iff : program.knowsProperty name = true ↔
    ∃ known ∈ program.propertyNames, Text.sameName known name = true :=
  List.any_eq_true

theorem addPropertyName_of_new (h : program.knowsProperty name = false) :
    program.addPropertyName name =
      ({ program with propertyNames := program.propertyNames ++ [name] }, true) := by
  rw [addPropertyName, h]
  rfl

theorem addPropertyName_of_known (h : program.knowsProperty name = true) :
    program.addPropertyName name = (program, false) :=
  if_pos h

/-- A name is recorded after the others, and keeps apart from them. -/
theorem namesDistinct_addPropertyName_iff :
    (program.addPropertyName name).1.NamesDistinct ↔ program.NamesDistinct := by
  cases h : program.knowsProperty name with
  | true => rw [addPropertyName_of_known h]
  | false =>
    rw [addPropertyName_of_new h]
    have hapart : ∀ known ∈ program.propertyNames, ∀ new ∈ [name],
        Text.sameName known new = false :=
      fun known hknown => List.forall_mem_singleton.2 (knowsProperty_eq_false_iff.1 h known hknown)
    exact List.pairwise_append.trans
      ⟨fun hall => hall.1, fun hdistinct => ⟨hdistinct, List.pairwise_singleton _ _, hapart⟩⟩

/-! ## Runs -/

theorem propertyNames_of_chainLast {link : Value} {linked : Program}
    (h : program.chainLast link = .ok linked) : linked.propertyNames = program.propertyNames := by
  unfold chainLast at h
  split at h
  · cases h
  · split at h
    · cases h
      rfl
    · cases h

theorem namesDistinct_empty : empty.NamesDistinct := List.Pairwise.nil

/-- A call takes no repetition away, unless it takes all names, and it adds none. -/
theorem namesDistinct_applyTo_iff (call : Call) :
    (call.applyTo program).NamesDistinct ↔ program.NamesDistinct ∨ call = .clear := by
  cases call with
  | addOperand operand => exact (or_iff_left nofun).symm
  | addOperation operation => exact (or_iff_left nofun).symm
  | chainLast link =>
    rw [Call.applyTo, or_iff_left nofun]
    cases h : program.chainLast link with
    | error refusal => rfl
    | ok linked =>
      show linked.NamesDistinct ↔ program.NamesDistinct
      rw [NamesDistinct, NamesDistinct, propertyNames_of_chainLast h]
  | addPropertyName name =>
    exact namesDistinct_addPropertyName_iff.trans (or_iff_left nofun).symm
  | clear => exact iff_of_true namesDistinct_empty (.inr rfl)

theorem namesDistinct_afterCalls_iff (start : Program) (calls : List Call) :
    (start.afterCalls calls).NamesDistinct ↔ start.NamesDistinct ∨ .clear ∈ calls := by
  induction calls generalizing start with
  | nil => exact (or_iff_left nofun).symm
  | cons call rest ih =>
    rw [afterCalls, List.foldl_cons, ← afterCalls, ih, namesDistinct_applyTo_iff, List.mem_cons,
      or_assoc, eq_comm]

end Program

/-! ## Restored names -/

theorem Restored.need_eq_ok_iff {α : Type} {found : Option α} {a : α} :
    need found = .ok a ↔ found = some a := by
  cases found with
  | none => exact ⟨nofun, nofun⟩
  | some b =>
    exact ⟨fun h => congrArg _ (Except.ok.inj h), fun h => congrArg _ (Option.some.inj h)⟩

/-- What a draft has for a field was read from a part of the document with the name of the field. -/
theorem exists_part_of_readFields {δ α : Type} {names : List String}
    {read : δ → String → Document → Restored δ} {document : Document} {first last : δ}
    {field : String} (get : δ → Option α) {readField : Document → Restored α}
    (hread : ∀ draft name value draft', read draft name value = .ok draft' →
      get draft' = get draft ∨ name = field ∧ ∃ a, readField value = .ok a ∧ get draft' = some a)
    (hfirst : get first = none) (h : readFields names read first document = .ok last) {a : α}
    (ha : get last = some a) :
    ∃ content, (field, content) ∈ document.parts names ∧ readField content = .ok a := by
  refine readFields_preserves (fun draft => ∀ a, get draft = some a →
    ∃ content, (field, content) ∈ document.parts names ∧ readField content = .ok a) ?_ ?_ h a ha
  · intro draft name value draft' hpart hbefore hstep a ha
    rcases hread draft name value draft' hstep with hsame | ⟨rfl, b, hb, hnow⟩
    · exact hbefore a (hsame ▸ ha)
    · cases hnow.symm.trans ha
      exact ⟨value, hpart, hb⟩
  · intro a ha
    rw [hfirst] at ha
    cases ha

/-- The names of a restored program are read from its document, as they stand there. -/
theorem Program.names_of_ofDocument {document : Document} {program : Program}
    (h : Program.ofDocument document = .ok program) :
    ∃ content, ("property_names", content) ∈
        document.parts ["operands", "operations", "property_names"] ∧
      content.toList toText = .ok program.propertyNames := by
  obtain ⟨draft, hdraft, h⟩ := bind_eq_ok_iff.1 h
  obtain ⟨operands, -, h⟩ := bind_eq_ok_iff.1 h
  obtain ⟨operations, -, h⟩ := bind_eq_ok_iff.1 h
  obtain ⟨names, hnames, h⟩ := bind_eq_ok_iff.1 h
  cases h
  refine exists_part_of_readFields Draft.propertyNames ?_ rfl hdraft
    (Restored.need_eq_ok_iff.1 hnames)
  intro draft name value draft' hread
  split at hread
  · obtain ⟨operands, -, h⟩ := bind_eq_ok_iff.1 hread
    cases h
    exact .inl rfl
  · obtain ⟨operations, -, h⟩ := bind_eq_ok_iff.1 hread
    cases h
    exact .inl rfl
  · obtain ⟨names, hnames, h⟩ := bind_eq_ok_iff.1 hread
    cases h
    exact .inr ⟨rfl, names, hnames, rfl⟩
  · cases hread
    exact .inl rfl

/-- The program of a restored filter is restored from a part of the filter's document. -/
theorem Filter.program_of_ofDocument {document : Document} {filter : Filter}
    (h : Filter.ofDocument document = .ok filter) :
    ∃ content, ("program", content) ∈ document.parts ["query", "program", "config"] ∧
      Program.ofDocument content = .ok filter.program := by
  obtain ⟨draft, hdraft, h⟩ := bind_eq_ok_iff.1 h
  obtain ⟨query, -, h⟩ := bind_eq_ok_iff.1 h
  obtain ⟨program, hprogram, h⟩ := bind_eq_ok_iff.1 h
  cases h
  refine exists_part_of_readFields Draft.program ?_ rfl hdraft (Restored.need_eq_ok_iff.1 hprogram)
  intro draft name value draft' hread
  split at hread
  · obtain ⟨query, -, h⟩ := bind_eq_ok_iff.1 hread
    cases h
    exact .inl rfl
  · obtain ⟨program, hprogram, h⟩ := bind_eq_ok_iff.1 hread
    cases h
    exact .inr ⟨rfl, program, hprogram, rfl⟩
  · obtain ⟨settings, -, h⟩ := bind_eq_ok_iff.1 hread
    cases h
    exact .inl rfl
  · cases hread
    exact .inl rfl

namespace Program

/-- Names that repeat are restored like any others. -/
theorem ofDocument_of_names (names : List String) :
    Program.ofDocument (toDocument ⟨[], [], names⟩) = .ok ⟨[], [], names⟩ :=
  ofDocument_toDocument nofun

/-- The names of a program that is built from nothing are distinct, whatever is called in whatever
order. Those of a restored program, on its own or within a filter, are the names that its document
lists, and a document can list any; they are distinct after further calls exactly when they were
before or one of the calls cleared the program. Recording a name appends it and answers so exactly
when none of the names is the same in any case, and else it answers that and changes nothing. -/
theorem propertyNames_distinct (calls : List Call) (document : Document) (program : Program)
    (name : String) :
    (empty.afterCalls calls).NamesDistinct ∧
    (Program.ofDocument document = .ok program →
      (∃ content, ("property_names", content) ∈
          document.parts ["operands", "operations", "property_names"] ∧
        content.toList toText = .ok program.propertyNames) ∧
      ((program.afterCalls calls).NamesDistinct ↔ program.NamesDistinct ∨ .clear ∈ calls)) ∧
    (∀ filter, Filter.ofDocument document = .ok filter →
      ∃ content start, ("program", content) ∈ document.parts ["query", "program", "config"] ∧
        Program.ofDocument content = .ok start ∧ filter.propertyList = start.propertyNames) ∧
    (∀ names : List String, ∃ document start,
      Program.ofDocument document = .ok start ∧ start.propertyNames = names) ∧
    ((∀ known ∈ program.propertyNames, Text.sameName known name = false) →
      program.addPropertyName name =
        ({ program with propertyNames := program.propertyNames ++ [name] }, true)) ∧
    ((∃ known ∈ program.propertyNames, Text.sameName known name = true) →
      program.addPropertyName name = (program, false)) := by
  refine ⟨?_, fun h => ⟨names_of_ofDocument h, namesDistinct_afterCalls_iff program calls⟩,
    fun filter h => ?_, fun names => ⟨_, _, ofDocument_of_names names, rfl⟩, fun h => ?_,
    fun h => ?_⟩
  · exact (namesDistinct_afterCalls_iff empty calls).2 (.inl namesDistinct_empty)
  · obtain ⟨content, hpart, hprogram⟩ := Filter.program_of_ofDocument h
    exact ⟨content, filter.program, hpart, hprogram, rfl⟩
  · exact addPropertyName_of_new (knowsProperty_eq_false_iff.2 h)
  · exact addPropertyName_of_known (knowsProperty_eq_true_iff.2 h)

/-- A filter that reads two properties is restored; one of them comes again in other letters, and a
third is new. -/
theorem propertyNames_distinct_status :
    let start : Program := ⟨[.property (.ofName "Status")], [.isNull], ["Status", "Name"]⟩
    let filter : Filter := .ofProgram "Status IS NULL" start
    let calls : List Call :=
      [.addPropertyName "STATUS", .chainLast (.property (.ofName "Code")), .addPropertyName "Size"]
    Program.ofDocument start.toDocument = .ok start ∧
      (start.afterCalls calls).NamesDistinct ∧
      (∃ content restored, ("program", content) ∈
          filter.toDocument.parts ["query", "program", "config"] ∧
        Program.ofDocument content = .ok restored ∧
        filter.propertyList = restored.propertyNames) ∧
      start.addPropertyName "STATUS" = (start, false) ∧
      start.addPropertyName "Size" =
        ({ start with propertyNames := ["Status", "Name", "Size"] }, true) := by
  intro start filter calls
  have hpersistable : start.Persistable := List.forall_mem_singleton.2 trivial
  have hstart : Program.ofDocument start.toDocument = .ok start :=
    ofDocument_toDocument hpersistable
  have hread : Filter.ofDocument filter.toDocument = .ok filter :=
    Filter.ofDocument_toDocument hpersistable
  obtain ⟨-, hrestored, -, -, -, hknown⟩ :=
    propertyNames_distinct calls start.toDocument start "STATUS"
  obtain ⟨-, -, hfilter, -, hnew, -⟩ :=
    propertyNames_distinct calls filter.toDocument start "Size"
  refine ⟨hstart, (hrestored hstart).2.2 (.inl (by decide)), hfilter filter hread, ?_, ?_⟩
  · exact hknown ⟨"Status", .head _, by decide⟩
  · exact hnew (by decide)

/-- A document can list one name twice. -/
theorem propertyNames_repeated :
    let document : Document := .record [⟨"operands", .list []⟩, ⟨"operations", .list []⟩,
      ⟨"property_names", .list [.text "a", .text "A"]⟩]
    ∃ program, Program.ofDocument document = .ok program ∧ program.propertyNames = ["a", "A"] ∧
      ¬ program.NamesDistinct :=
  ⟨_, ofDocument_of_names ["a", "A"], rfl, by decide⟩

end Program

end InstanceFilter
