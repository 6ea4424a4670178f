/-
The states of the machines that patterns are compiled to. A machine reads bytes; here it is not
built, only its states are counted, with the memory that they take. Literals and sets are laid out
in this module: a choice between literals shares what they start with, and the encodings of a set
share what they end with.
-/
import InstanceFilter.Unicode.CharSet
import InstanceFilter.Unicode.Utf8
import Std.Data.HashMap

namespace InstanceFilter.Pattern.Machine

open Unicode

/-- What has been laid out of a machine: its states, and the bytes that lists of steps and of
branches take beside them. -/
structure Tally where
  states : Nat
  lists : Nat
  deriving Repr, DecidableEq

namespace Tally

/-- The bytes of a state. -/
def stateSize : Nat := 32

/-- The bytes of a step to another state, in a state that has a list of them. -/
def stepSize : Nat := 8

/-- The bytes of a branch to another state. -/
def branchSize : Nat := 4

def bytes (t : Tally) : Nat := stateSize * t.states + t.lists

def withStates (t : Tally) (count : Nat) : Tally := { t with states := t.states + count }

def withSteps (t : Tally) (count : Nat) : Tally := { t with lists := t.lists + stepSize * count }

def withBranches (t : Tally) (count : Nat) : Tally :=
  { t with lists := t.lists + branchSize * count }

end Tally

/-! ## Literals -/

/-- Texts in groups by their first byte, as what follows it. -/
abbrev Groups := List (Nat × List (List Nat))

/-- The texts that go on from one place. The end of a text separates the groups of the texts before
it from those of the texts after it. -/
structure Fork where
  groups : Groups
  before : List Groups

namespace Fork

def addTo (first : Nat) (rest : List Nat) : Groups → Groups
  | [] => [(first, [rest])]
  | (byte, rests) :: groups =>
    if byte = first then (byte, rests ++ [rest]) :: groups
    else (byte, rests) :: addTo first rest groups

/-- Adds a text. Where no text goes on yet, only the first end counts. -/
def add (fork : Fork) : List Nat → Fork
  | [] =>
    if fork.groups.isEmpty && !fork.before.isEmpty && fork.before.all List.isEmpty then fork
    else ⟨[], fork.groups :: fork.before⟩
  | first :: rest => { fork with groups := addTo first rest fork.groups }

def ofTexts (texts : List (List Nat)) : Fork := texts.foldl add ⟨[], []⟩

end Fork

/-- The states of a choice between texts beyond a place: one for each list of groups, and one that
branches to those and to the ends of texts. The longest text has at most `fuel` bytes more. -/
def layFork (fuel : Nat) (texts : List (List Nat)) (t : Tally) : Tally :=
  match fuel with
  | 0 => t
  | fuel + 1 =>
    if texts.all List.isEmpty then t
    else
      let fork := Fork.ofTexts texts
      let lists := (fork.groups :: fork.before).filter fun groups => !groups.isEmpty
      let t := lists.foldl (fun t groups =>
        groups.foldl (fun t group => layFork fuel group.2 t)
          (if groups.length = 1 then t.withStates 1
            else (t.withStates 1).withSteps groups.length)) t
      (t.withStates 1).withBranches (lists.length + fork.before.length)

/-- The states of a choice between literals. -/
def layLiterals (texts : List (List Nat)) (t : Tally) : Tally :=
  layFork ((texts.map List.length).foldl Nat.max 0 + 1) texts (t.withStates 1)

/-! ## Sets -/

/-- A step to a state on the bytes of a range. -/
structure Step where
  bytes : Utf8.ByteRange
  target : Nat
  deriving Repr, DecidableEq

/-- The slot where states with given steps are remembered. -/
def slot (slots : UInt64) (numbers : List Nat) : Nat :=
  let mix (h : UInt64) (n : Nat) : UInt64 := (h ^^^ n.toUInt64) * 1099511628211
  (numbers.foldl mix 14695981039346656037 % slots).toNat

/-- A machine in the making that remembers some of its states by their steps, so that a state with
the same steps is used again. Each slot remembers the last state that fell into it. -/
structure Shared where
  tally : Tally
  known : Std.HashMap Nat (List Step × Nat)

namespace Shared

/-- The state remembered in a slot for its steps, or a new one that `grow` lays out. -/
def state (m : Shared) (slot : Nat) (steps : List Step) (grow : Tally → Tally) : Nat × Shared :=
  match m.known[slot]? with
  | some (steps', state) => if steps = steps' then (state, m) else fresh
  | none => fresh
where
  fresh : Nat × Shared :=
    (m.tally.states, ⟨grow m.tally, m.known.insert slot (steps, m.tally.states)⟩)

end Shared

/-- Pieces in groups by their first bytes, as what follows those; pieces with the same first bytes
stand side by side. -/
def groupPieces : List Utf8.Piece → List (Utf8.ByteRange × List Utf8.Piece)
  | [] => []
  | [] :: pieces => groupPieces pieces
  | (first :: rest) :: pieces =>
    match groupPieces pieces with
    | (bytes, rests) :: groups =>
      if bytes = first then (bytes, (rest :: rests)) :: groups
      else (first, [rest]) :: (bytes, rests) :: groups
    | [] => [(first, [rest])]

/-- The state from which pieces of at most `fuel` bytes lead to a target, laid out after the states
it leads to. -/
def layPieces (fuel target : Nat) (pieces : List Utf8.Piece) (m : Shared) : Nat × Shared :=
  match fuel with
  | 0 => (target, m)
  | fuel + 1 =>
    if pieces.all List.isEmpty then (target, m)
    else
      let (steps, m) := (groupPieces pieces).foldl (fun (steps, m) (bytes, rests) =>
        let (next, m) := layPieces fuel target rests m
        (steps ++ [⟨bytes, next⟩], m)) (([] : List Step), m)
      let numbers := steps.flatMap fun s => [s.bytes.first, s.bytes.last, s.target]
      m.state (slot 10000 numbers) steps fun t => (t.withStates 1).withSteps steps.length

/-- The states that read a piece from its last byte to its first: one for each byte, ending in a
given state. -/
def layReversed (piece : Utf8.Piece) (target : Nat) (m : Shared) : Shared :=
  (piece.foldl (fun (target, m) bytes =>
    m.state (slot 1000 [target, bytes.first, bytes.last]) [⟨bytes, target⟩]
      fun t => t.withStates 1) (target, m)).2

/-- The states of a set. One of ASCII characters needs no more than a list of steps. -/
def laySet (backward : Bool) (s : CharSet) (t : Tally) : Tally :=
  if s.ranges.all fun r => r.last ≤ 0x7F then (t.withStates 2).withSteps s.ranges.length
  else
    let pieces := s.ranges.flatMap Utf8.pieces
    if backward then
      let target := t.states + 1
      let m := pieces.foldl (fun m piece => layReversed piece target m) ⟨t.withStates 2, ∅⟩
      m.tally.withBranches pieces.length
    else (layPieces 4 t.states pieces ⟨t.withStates 1, ∅⟩).2.tally

end InstanceFilter.Pattern.Machine
