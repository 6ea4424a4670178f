/-
Reading a pattern. The reader keeps the groups and alternatives that are still open on a stack, so
that a closing parenthesis or a bar ends exactly the innermost of them; the parts read since then
stand beside the stack.
-/
import InstanceFilter.Pattern.Bracket
import InstanceFilter.Text.Identifier

namespace InstanceFilter.Pattern

namespace Reader

inductive Frame where
  /-- An open group, with the parts before it and the verbosity outside it. -/
  | group (before : List Syntax) (captures : Bool) (flags : List FlagItem) (verbose : Bool)
  | alternation (branches : List Syntax)

structure State where
  rest : List Char
  verbose : Bool
  /-- The names of the groups read so far. -/
  names : List (List Char)
  stack : List Frame
  parts : List Syntax

/-! ## Groups -/

def flag? : Char → Option Flag
  | 'i' => some .caseInsensitive
  | 'm' => some .multiLine
  | 's' => some .dotMatchesLineEnd
  | 'U' => some .swapGreed
  | 'u' => some .unicode
  | 'R' => some .crlf
  | 'x' => some .verbose
  | _ => none

/-- Flags up to a colon or a closing parenthesis, which is given with them. No letter and no minus
sign may be repeated, and a minus sign needs a letter after it. -/
def readFlags (items : List FlagItem) : List Char → Option (List FlagItem × Char × List Char)
  | [] => none
  | c :: rest =>
    if c = ':' ∨ c = ')' then
      if items.getLast? = some .negation then none else some (items, c, rest)
    else do
      let item ← if c = '-' then some .negation else (flag? c).map .flag
      if items.contains item then none else readFlags (items ++ [item]) rest

/-- Whether flags turn one on or off, if they say. -/
def flagState? (f : Flag) (items : List FlagItem) : Option Bool :=
  let before := items.takeWhile (· != .flag f)
  if items.contains (.flag f) then some (!before.contains .negation) else none

def isNameChar (first : Bool) (c : Char) : Bool :=
  if first then c == '_' || Text.isAlphabetic c
  else Text.isIdentifierChar c || c == '.' || c == '[' || c == ']'

/-- The name of a group up to its closing angle bracket. -/
def readGroupName (text : List Char) : Option (List Char × List Char) :=
  let name := text.takeWhile (· != '>')
  match name, text.dropWhile (· != '>') with
  | first :: others, _ :: rest =>
    if isNameChar true first && others.all (isNameChar false) then some (name, rest) else none
  | _, _ => none

def openGroup (state : State) (captures : Bool) (flags : List FlagItem) (rest : List Char) :
    State :=
  { state with
    rest
    verbose := (flagState? .verbose flags).getD state.verbose
    stack := .group state.parts captures flags state.verbose :: state.stack
    parts := [] }

def openNamedGroup (state : State) (text : List Char) : Option State := do
  let (name, rest) ← readGroupName text
  if state.names.contains name then none
  else return openGroup { state with names := name :: state.names } true [] rest

/-- Opens a group after its parenthesis, or takes in flags for what follows. -/
def readGroup (state : State) (text : List Char) : Option State :=
  match skip state.verbose text with
  | '?' :: '=' :: _ | '?' :: '!' :: _ | '?' :: '<' :: '=' :: _ | '?' :: '<' :: '!' :: _ => none
  | '?' :: 'P' :: '<' :: rest | '?' :: '<' :: rest => openNamedGroup state rest
  | '?' :: rest => do
    let (flags, close, rest) ← readFlags [] rest
    if close = ':' then return openGroup state false flags rest
    else if flags.isEmpty then none
    else return { state with
      rest
      verbose := (flagState? .verbose flags).getD state.verbose
      parts := state.parts ++ [.flags flags] }
  | rest => some (openGroup state true [] rest)

/-- Ends the current branch at a bar. -/
def endBranch (state : State) (rest : List Char) : State :=
  let branch := Syntax.ofParts state.parts
  let stack := match state.stack with
    | .alternation branches :: stack => .alternation (branches ++ [branch]) :: stack
    | stack => .alternation [branch] :: stack
  { state with rest, stack, parts := [] }

/-- What the parts and the alternatives on top of the stack make together. -/
def settle (state : State) : Syntax × List Frame :=
  let last := Syntax.ofParts state.parts
  match state.stack with
  | .alternation branches :: stack => (Syntax.ofBranches (branches ++ [last]), stack)
  | stack => (last, stack)

/-- Ends the innermost group at a closing parenthesis. -/
def closeGroup (state : State) (rest : List Char) : Option State :=
  match settle state with
  | (body, .group before captures flags verbose :: stack) =>
    some { state with rest, verbose, stack, parts := before ++ [.group captures flags body] }
  | _ => none

/-! ## Repetitions -/

/-- Repeats the last part, which must be there and be more than flags. A question mark after the
repetition makes it lazy. -/
def repeatLast (state : State) (min : Nat) (max : Option Nat) (rest : List Char) : Option State :=
  let (lazy, rest) := match rest with
    | '?' :: rest => (true, rest)
    | rest => (false, rest)
  match state.parts.getLast? with
  | none | some .empty | some (.flags _) => none
  | some body =>
    some { state with rest, parts := state.parts.dropLast ++ [.repetition min max lazy body] }

/-- The least and the greatest count between braces, after the opening one. -/
def readCounts (verbose : Bool) (text : List Char) : Option ((Nat × Option Nat) × List Char) := do
  let (min, rest) ← readCount verbose (skip verbose text)
  match rest with
  | ',' :: rest =>
    match skip verbose rest with
    | '\x7d' :: rest => return ((min, none), rest)
    | rest =>
      let (max, rest) ← readCount verbose rest
      match rest with
      | '\x7d' :: rest => if min ≤ max then return ((min, some max), rest) else none
      | _ => none
  | '\x7d' :: rest => return ((min, some min), rest)
  | _ => none

/-! ## The reader -/

def atomSyntax : Atom → Syntax
  | .literal l => .literal l
  | .dot => .dot
  | .assertion kind => .assertion kind
  | .shorthand kind negated => .shorthand kind negated
  | .property query negated => .property query negated

def readAtom (verbose : Bool) : List Char → Option (Atom × List Char)
  | [] => none
  | '\\' :: rest => readEscape verbose rest
  | '.' :: rest => some (.dot, rest)
  | '^' :: rest => some (.assertion .lineStart, rest)
  | '$' :: rest => some (.assertion .lineEnd, rest)
  | c :: rest => some (.literal ⟨c, false⟩, rest)

/-- Reads what the next character starts. -/
def step (state : State) : Option State :=
  match state.rest with
  | [] => none
  | '(' :: rest => readGroup state rest
  | ')' :: rest => closeGroup state rest
  | '|' :: rest => some (endBranch state rest)
  | '[' :: _ => (Bracket.read state.verbose state.rest).map fun (negated, set, rest) =>
      { state with rest, parts := state.parts ++ [.bracketed negated set] }
  | '?' :: rest => repeatLast state 0 (some 1) rest
  | '*' :: rest => repeatLast state 0 none rest
  | '+' :: rest => repeatLast state 1 none rest
  | '\x7b' :: rest => do
    let ((min, max), rest) ← readCounts state.verbose rest
    repeatLast state min max (skip state.verbose rest)
  | text => (readAtom state.verbose text).map fun (atom, rest) =>
      { state with rest, parts := state.parts ++ [atomSyntax atom] }

/-- Steps until the text ends; a step that reads nothing ends the reading. -/
def run (state : State) : Option State :=
  match skip state.verbose state.rest with
  | [] => some { state with rest := [] }
  | rest =>
    match step { state with rest } with
    | none => none
    | some next => if next.rest.length < state.rest.length then run next else none
termination_by state.rest.length

/-- The deepest nesting that is read. -/
def deepest : Nat := 250

end Reader

open Reader in
/-- The syntax of a pattern text, nothing if it is no pattern. -/
def Syntax.read? (text : List Char) : Option Syntax := do
  let final ← run ⟨text, false, [], [], []⟩
  match settle final with
  | (tree, []) => if tree.depth ≤ deepest then return tree else none
  | _ => none

end InstanceFilter.Pattern
