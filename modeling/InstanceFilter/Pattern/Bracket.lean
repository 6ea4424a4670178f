/-
Reading a class in brackets. Brackets nest and the set operators take everything to their left, so
the reader keeps a stack: the sets still open, and left-hand sides that wait for their right-hand
sides.
-/
import InstanceFilter.Pattern.Atom

namespace InstanceFilter.Pattern.Bracket

inductive Frame where
  /-- An open set, with the items read before it and its mark of negation. -/
  | opened (before : List ClassItem) (negated : Bool)
  | operation (op : SetOperation) (lhs : ClassSet)

structure State where
  rest : List Char
  stack : List Frame
  items : List ClassItem

/-- The result of one step: another state, or the class with the text after it. -/
inductive Progress where
  | more (state : State)
  | done (negated : Bool) (set : ClassSet) (rest : List Char)

/-! ## Items -/

def asciiClass? : String → Option AsciiClass
  | "alnum" => some .alnum
  | "alpha" => some .alpha
  | "ascii" => some .ascii
  | "blank" => some .blank
  | "cntrl" => some .cntrl
  | "digit" => some .digit
  | "graph" => some .graph
  | "lower" => some .lower
  | "print" => some .print
  | "punct" => some .punct
  | "space" => some .space
  | "upper" => some .upper
  | "word" => some .word
  | "xdigit" => some .xdigit
  | _ => none

/-- A named ASCII class such as `[:alpha:]`, after its opening bracket; anything else there opens a
nested set. -/
def readAsciiClass : List Char → Option (ClassItem × List Char)
  | ':' :: rest =>
    let (negated, rest) := match rest with
      | '^' :: rest => (true, rest)
      | _ => (false, rest)
    match rest.dropWhile (· != ':') with
    | ':' :: ']' :: after =>
      (asciiClass? (String.ofList (rest.takeWhile (· != ':')))).map fun kind =>
        (.ascii kind negated, after)
    | _ => none
  | _ => none

/-- One item of a class, before it is known to be the start of a range. -/
def readPrimitive (verbose : Bool) : List Char → Option (Atom × List Char)
  | [] => none
  | '\\' :: rest => readEscape verbose rest
  | c :: rest => some (.literal ⟨c, false⟩, rest)

def itemOf : Atom → Option ClassItem
  | .literal l => some (.literal l)
  | .shorthand kind negated => some (.shorthand kind negated)
  | .property query negated => some (.property query negated)
  | .dot | .assertion _ => none

/-- A range whose ends are literals in order. -/
def rangeOf : Atom → Atom → Option ClassItem
  | .literal first, .literal last =>
    if first.char ≤ last.char then some (.range first last) else none
  | _, _ => none

/-- An item, or a range when a hyphen follows that is neither the last character of the class nor
the start of a difference. -/
def readItem (verbose : Bool) (text : List Char) : Option (ClassItem × List Char) := do
  let (first, rest) ← readPrimitive verbose text
  match skip verbose rest with
  | [] => none
  | c :: rest =>
    let next := peekPast verbose rest
    if c != '-' || next == some ']' || next == some '-' then
      return (← itemOf first, c :: rest)
    else
      let (last, rest) ← readPrimitive verbose (skip verbose rest)
      return (← rangeOf first last, rest)

/-! ## Opening and closing -/

/-- Hyphens at the start of a set are literal. -/
def readHyphens (verbose : Bool) (items : List ClassItem) (text : List Char) :
    List ClassItem × List Char :=
  match text with
  | c :: rest =>
    if c = '-' then readHyphens verbose (items ++ [.literal ⟨'-', false⟩]) (skip verbose rest)
    else (items, c :: rest)
  | [] => (items, [])
termination_by text.length
decreasing_by
  have := length_skip_le verbose rest
  simp only [List.length_cons]
  omega

/-- Opens a set, after its bracket. A closing bracket that comes first is literal. -/
def openSet (verbose : Bool) (state : State) (text : List Char) : Option State := do
  let (negated, text) := match skip verbose text with
    | '^' :: rest => (true, skip verbose rest)
    | text => (false, text)
  let (items, text) := readHyphens verbose [] text
  let (items, text) := match items, text with
    | [], ']' :: rest => ([ClassItem.literal ⟨']', false⟩], skip verbose rest)
    | _, _ => (items, text)
  if text.isEmpty then none
  else return ⟨text, .opened state.items negated :: state.stack, items⟩

/-- The set read so far inside the innermost bracket, and the stack below its operators. -/
def settle (items : List ClassItem) : List Frame → ClassSet × List Frame
  | .operation op lhs :: stack => (.operation op lhs (.items items), stack)
  | stack => (.items items, stack)

def closeSet (state : State) (text : List Char) : Option Progress :=
  let (set, stack) := settle state.items state.stack
  match stack with
  | [.opened _ negated] => some (.done negated set text)
  | .opened before negated :: stack =>
    some (.more ⟨text, stack, before ++ [.bracketed negated set]⟩)
  | _ => none

def applyOperation (op : SetOperation) (state : State) (text : List Char) : State :=
  let (lhs, stack) := settle state.items state.stack
  ⟨text, .operation op lhs :: stack, []⟩

/-- Reads what the next character starts. -/
def step (verbose : Bool) (state : State) : Option Progress :=
  match state.rest with
  | [] => none
  | '[' :: rest =>
    let ascii := if state.stack.isEmpty then none else readAsciiClass rest
    match ascii with
    | some (item, rest) => some (.more { state with rest, items := state.items ++ [item] })
    | none => (openSet verbose state rest).map .more
  | ']' :: rest => closeSet state rest
  | '&' :: '&' :: rest => some (.more (applyOperation .intersection state rest))
  | '-' :: '-' :: rest => some (.more (applyOperation .difference state rest))
  | '~' :: '~' :: rest => some (.more (applyOperation .symmetricDifference state rest))
  | text => (readItem verbose text).map fun (item, rest) =>
      .more { state with rest, items := state.items ++ [item] }

/-- Steps until the outermost bracket closes; a step that reads nothing ends the reading. -/
def run (verbose : Bool) (state : State) : Option (Bool × ClassSet × List Char) :=
  match step verbose { state with rest := skip verbose state.rest } with
  | none => none
  | some (.done negated set rest) => some (negated, set, rest)
  | some (.more next) =>
    if next.rest.length < state.rest.length then run verbose next else none
termination_by state.rest.length

/-- A class in brackets, from its opening bracket on. -/
def read (verbose : Bool) (text : List Char) : Option (Bool × ClassSet × List Char) :=
  run verbose ⟨text, [], []⟩

end InstanceFilter.Pattern.Bracket
