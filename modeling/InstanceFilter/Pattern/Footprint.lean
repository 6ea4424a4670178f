/-
The size of a pattern: what its two machines take, the one that reads a text from the start and the
one that reads it from the end. A machine is laid out part by part, each part after the one it
continues, and a part that is repeated is laid out as often as it can occur.
-/
import InstanceFilter.Pattern.Form
import InstanceFilter.Pattern.Machine

namespace InstanceFilter.Pattern

open Machine

/-! ## Anchors -/

mutual

/-- Whether every match of a form starts at a place where `l` holds, as can be told from its first
parts. -/
def Form.startsWith (l : Look) : Form → Bool
  | .look l' => l = l'
  | .cat parts => startsWithOneOf l parts
  | .alt branches => allStartWith l branches
  | .repeat a min _ _ => min > 0 && a.startsWith l
  | .capture a => a.startsWith l
  | _ => false

def startsWithOneOf (l : Look) : List Form → Bool
  | [] => false
  | a :: rest => a.startsWith l || (a.isZeroWidth && startsWithOneOf l rest)

def allStartWith (l : Look) : List Form → Bool
  | [] => true
  | a :: rest => a.startsWith l && allStartWith l rest

end

mutual

/-- Whether every match of a form ends at a place where `l` holds, as can be told from its last
parts. -/
def Form.endsWith (l : Look) : Form → Bool
  | .look l' => l = l'
  | .cat parts => endsWithOneOf l parts
  | .alt branches => allEndWith l branches
  | .repeat a min _ _ => min > 0 && a.endsWith l
  | .capture a => a.endsWith l
  | _ => false

def endsWithOneOf (l : Look) : List Form → Bool
  | [] => false
  | a :: rest => endsWithOneOf l rest || (Form.allZeroWidth rest && a.endsWith l)

def allEndWith (l : Look) : List Form → Bool
  | [] => true
  | a :: rest => a.endsWith l && allEndWith l rest

end

/-! ## Laying out -/

/-- A part of a machine that has been laid out, and whether it ends in a state that branches. Such a
state has one branch more for what comes after the part. -/
structure Laid where
  tally : Tally
  branches : Bool

namespace Laid

/-- The tally once the part has been joined to what comes after it. -/
def joined (part : Laid) : Tally := if part.branches then part.tally.withBranches 1 else part.tally

/-- A number of copies in a row; none at all is one state. Past the limit nothing is added. -/
def copies (limit : Nat) (lay : Tally → Laid) : Nat → Tally → Laid
  | 0, t => ⟨t.withStates 1, false⟩
  | 1, t => lay t
  | count + 2, t =>
    if limit < t.bytes then ⟨t, false⟩ else copies limit lay (count + 1) (lay t).joined

/-- A number of copies that may each be the last, or be left out with all after them. -/
def optionalCopies (limit : Nat) (lay : Tally → Laid) : Nat → Laid → Laid
  | 0, before => before
  | count + 1, before =>
    if limit < before.tally.bytes then before
    else optionalCopies limit lay count (lay ((before.joined.withStates 1).withBranches 2))

end Laid

/-- The bytes of a literal. -/
def literalBytes (text : List Char) : List Nat := text.flatMap fun c => Unicode.Utf8.encode c.toNat

/-- The literals of a choice, if there is nothing else in it. -/
def literals? (branches : List Form) : Option (List (List Char)) :=
  branches.mapM fun
    | .literal text => some text
    | _ => none

mutual

/-- Lays out a form after what has been laid out, for the machine of the given direction. -/
def Form.lay (limit : Nat) (backward : Bool) : Form → Tally → Laid
  | .empty, t | .look _, t => ⟨t.withStates 1, false⟩
  | .literal text, t => ⟨t.withStates (literalBytes text).length, false⟩
  | .set s, t => ⟨laySet backward s t, false⟩
  | .capture a, t =>
    if backward then a.lay limit backward t
    else ⟨(a.lay limit backward (t.withStates 1)).joined.withStates 1, false⟩
  | .cat parts, t => layParts limit backward parts t
  | .alt branches, t =>
    match literals? branches with
    | some texts =>
      let texts := texts.map literalBytes
      ⟨layLiterals (if backward then texts.map List.reverse else texts) t, false⟩
    | none => ⟨layBranches limit backward 0 branches t, false⟩
  | .repeat a 0 none _, t =>
    if a.shortest?.any (0 < ·) then
      ⟨((a.lay limit backward (t.withStates 1)).joined).withBranches 1, true⟩
    else ⟨((a.lay limit backward t).joined.withStates 3).withBranches 4, false⟩
  | .repeat a 0 (some 1) _, t =>
    ⟨((a.lay limit backward (t.withStates 1)).joined.withStates 1).withBranches 2, false⟩
  | .repeat a min none _, t =>
    let t := (Laid.copies limit (a.lay limit backward) min t).joined
    ⟨(t.withStates 1).withBranches 1, true⟩
  | .repeat a min (some max) _, t =>
    let least := Laid.copies limit (a.lay limit backward) min t
    if min = max then least
    else
      let least := { least with tally := least.tally.withStates 1 }
      ⟨(Laid.optionalCopies limit (a.lay limit backward) (max - min) least).joined, false⟩

/-- Lays out parts one after the other, the last one first for a machine that reads backward. -/
def layParts (limit : Nat) (backward : Bool) : List Form → Tally → Laid
  | [], t => ⟨t.withStates 1, false⟩
  | [a], t => a.lay limit backward t
  | a :: rest, t =>
    if backward then a.lay limit backward (layParts limit backward rest t).joined
    else layParts limit backward rest (a.lay limit backward t).joined

/-- Lays out branches, of which some have been laid out already. The state that branches to them
and the one in which they end come after the second. -/
def layBranches (limit : Nat) (backward : Bool) (count : Nat) : List Form → Tally → Tally
  | [], t => t
  | a :: rest, t =>
    let t := (a.lay limit backward t).joined.withBranches 1
    layBranches limit backward (count + 1) rest (if count = 1 then t.withStates 2 else t)

end

/-! ## Machines -/

/-- What the machine of a form takes. It starts with a state that reads nothing if a match can only
start at that end of the text, and with a loop over bytes otherwise; it ends in a state that tells
of the match. Going forward it also takes down where the match starts and ends. -/
def Form.machineBytes (limit : Nat) (backward : Bool) (f : Form) : Nat :=
  let anchored := if backward then f.endsWith .finish else f.startsWith .start
  let start : Tally :=
    if anchored then ⟨1, 0⟩ else ((Tally.mk 3 0).withSteps 1).withBranches 2
  let whole := if backward then f else .capture f
  ((whole.lay limit backward start).joined.withStates 1).bytes

/-- Whether both machines of an expression stay within a limit. -/
def Expr.fits (limit : Nat) (e : Expr) : Bool :=
  let f := e.form
  f.machineBytes limit false ≤ limit && f.machineBytes limit true ≤ limit

end InstanceFilter.Pattern
