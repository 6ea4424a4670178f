/-
What patterns mean. An expression matches a stretch of a text between two places, and a place is
the number of characters before it. `ends` computes, from a set of places where a match may start,
all the places where one can end. Laziness, and whether a group captures what it matches, make no
difference to where a match ends; they bear on the size of a pattern.
-/
import InstanceFilter.Unicode.Directory

namespace InstanceFilter.Pattern

/-- A condition on the characters around a place. -/
inductive Look where
  | start
  | finish
  | startLine
  | endLine
  | startLineCrlf
  | endLineCrlf
  | wordBoundary (ascii : Bool)
  | notWordBoundary (ascii : Bool)
  | wordStart (ascii : Bool)
  | wordEnd (ascii : Bool)
  | wordStartHalf (ascii : Bool)
  | wordEndHalf (ascii : Bool)
  deriving Repr, DecidableEq

inductive Expr where
  | empty
  | set (s : Unicode.CharSet)
  | look (l : Look)
  | cat (a b : Expr)
  | alt (a b : Expr)
  /-- From `min` to `max` times in a row, without an upper bound if there is no `max`. -/
  | repeat (a : Expr) (min : Nat) (max : Option Nat) (lazy : Bool)
  | group (captures : Bool) (a : Expr)
  deriving Repr

/-! ## Looking around a place -/

def isWordChar (ascii : Bool) (c : Char) : Bool :=
  if ascii || c.toNat < 128 then c.isAlphanum || c == '_' else Unicode.wordSet.contains c

namespace Look

/-- Whether a condition holds between the character before a place and the one after it. -/
def holds (look : Look) (before after : Option Char) : Bool :=
  let word (ascii : Bool) (c : Option Char) : Bool := c.any (isWordChar ascii)
  match look with
  | .start => before.isNone
  | .finish => after.isNone
  | .startLine => before.isNone || before == some '\n'
  | .endLine => after.isNone || after == some '\n'
  | .startLineCrlf =>
    before.isNone || before == some '\n' || (before == some '\r' && after != some '\n')
  | .endLineCrlf =>
    after.isNone || after == some '\r' || (after == some '\n' && before != some '\r')
  | .wordBoundary ascii => word ascii before != word ascii after
  | .notWordBoundary ascii => word ascii before == word ascii after
  | .wordStart ascii => !word ascii before && word ascii after
  | .wordEnd ascii => word ascii before && !word ascii after
  | .wordStartHalf ascii => !word ascii before
  | .wordEndHalf ascii => !word ascii after

def holdsAt (look : Look) (text : Array Char) (place : Nat) : Bool :=
  look.holds (if place = 0 then none else text[place - 1]?) text[place]?

end Look

/-! ## Sets of places -/

/-- A set of places, in ascending order. -/
abbrev Places := List Nat

/-- The places of either of two sets. -/
def mergePlaces : Places → Places → Places
  | [], bs => bs
  | as, [] => as
  | a :: as, b :: bs =>
    if a < b then a :: mergePlaces as (b :: bs)
    else if b < a then b :: mergePlaces (a :: as) bs
    else a :: mergePlaces as bs
termination_by as bs => as.length + bs.length

/-- The places of one set that are not in another. -/
def withoutPlaces : Places → Places → Places
  | [], _ => []
  | as, [] => as
  | a :: as, b :: bs =>
    if a < b then a :: withoutPlaces as (b :: bs)
    else if b < a then withoutPlaces (a :: as) bs
    else withoutPlaces as bs
termination_by as bs => as.length + bs.length

/-- The places reached by as many steps as given, less where a round changes nothing. -/
def iterate (step : Places → Places) : Nat → Places → Places
  | 0, places => places
  | n + 1, places =>
    let next := step places
    if next = places then places else iterate step n next

/-- The places seen so far and those reached from the newest of them by at most so many steps. -/
def spread (step : Places → Places) : Nat → (seen newest : Places) → Places
  | 0, seen, _ => seen
  | _ + 1, seen, [] => seen
  | n + 1, seen, newest =>
    let next := withoutPlaces (step newest) seen
    spread step n (mergePlaces seen next) next

namespace Expr

/-- The places where a match can end that starts at one of the given places. More rounds of a
repetition than there are places reach nothing new. -/
def ends (text : Array Char) : Expr → Places → Places
  | .empty, starts => starts
  | .set s, starts =>
    starts.filterMap fun i => if (text[i]?).any s.contains then some (i + 1) else none
  | .look l, starts => starts.filter (l.holdsAt text)
  | .cat a b, starts => b.ends text (a.ends text starts)
  | .alt a b, starts => mergePlaces (a.ends text starts) (b.ends text starts)
  | .repeat a min max _, starts =>
    let least := iterate (a.ends text) min starts
    let rounds := match max with
      | some max => Nat.min (max - min) (text.size + 1)
      | none => text.size + 1
    spread (a.ends text) rounds least least
  | .group _ a, starts => a.ends text starts

/-- Whether an expression matches some stretch of a text. -/
def occursIn (e : Expr) (text : Array Char) : Bool :=
  !(e.ends text (List.range (text.size + 1))).isEmpty

/-! ## Building expressions -/

def cats (parts : List Expr) : Expr := parts.foldr .cat .empty

/-- The choice between expressions; of none, it matches nothing. -/
def alts : List Expr → Expr
  | [] => .set .none
  | [a] => a
  | a :: rest => .alt a (alts rest)

end Expr

end InstanceFilter.Pattern
