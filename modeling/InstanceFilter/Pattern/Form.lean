/-
The normal form of an expression, from which its size is counted. Concatenations and alternatives
are flat, literals that stand side by side are one, a choice between single characters is a set,
and what all branches of a choice start with stands before the choice.
-/
import InstanceFilter.Pattern.Expr

namespace InstanceFilter.Pattern

open Unicode

inductive Form where
  | empty
  | literal (text : List Char)
  /-- A set of no characters or of more than one. -/
  | set (s : CharSet)
  | look (l : Look)
  | cat (parts : List Form)
  | alt (branches : List Form)
  | repeat (a : Form) (min : Nat) (max : Option Nat) (lazy : Bool)
  | capture (a : Form)
  deriving Repr

namespace Form

/-! ## Sameness -/

mutual

/-- Whether two forms are written the same. A capture has a number of its own, so no two captures
are the same. -/
def same : Form → Form → Bool
  | .empty, .empty => true
  | .literal a, .literal b => a == b
  | .set a, .set b => a == b
  | .look a, .look b => a == b
  | .cat as, .cat bs => sameAll as bs
  | .alt as, .alt bs => sameAll as bs
  | .repeat a min max lazy, .repeat b min' max' lazy' =>
    a.same b && min == min' && max == max' && lazy == lazy'
  | _, _ => false

def sameAll : List Form → List Form → Bool
  | [], [] => true
  | a :: as, b :: bs => a.same b && sameAll as bs
  | _, _ => false

end

/-- How many forms at the start of two lists are the same. -/
def sharedPrefix : List Form → List Form → Nat
  | a :: as, b :: bs => if a.same b then sharedPrefix as bs + 1 else 0
  | _, _ => 0

/-! ## Lengths of matches -/

mutual

/-- The number of characters in the shortest match; nothing where a part has no match. -/
def shortest? : Form → Option Nat
  | .empty | .look _ => some 0
  | .literal text => some text.length
  | .set s => if s = .none then none else some 1
  | .cat parts => shortestSum? parts
  | .alt branches => shortestMin? branches
  | .repeat a min _ _ => a.shortest?.map (· * min)
  | .capture a => a.shortest?

def shortestSum? : List Form → Option Nat
  | [] => some 0
  | a :: rest => do return (← a.shortest?) + (← shortestSum? rest)

def shortestMin? : List Form → Option Nat
  | [] => none
  | [a] => a.shortest?
  | a :: rest => do return Nat.min (← a.shortest?) (← shortestMin? rest)

end

mutual

/-- Whether every match is empty. A set of no characters does not count as such. -/
def isZeroWidth : Form → Bool
  | .empty | .look _ => true
  | .literal _ | .set _ => false
  | .cat parts => allZeroWidth parts
  | .alt branches => allZeroWidth branches
  | .repeat a _ max _ => max.isSome && a.isZeroWidth
  | .capture a => a.isZeroWidth

def allZeroWidth : List Form → Bool
  | [] => true
  | a :: rest => a.isZeroWidth && allZeroWidth rest

end

/-! ## Building forms -/

/-- The only member of a set. -/
def onlyMember? (s : CharSet) : Option Char :=
  match s.edges with
  | [first, stop] => if stop = first + 1 then some (Char.ofNat first) else none
  | _ => none

def ofSet (s : CharSet) : Form :=
  match onlyMember? s with
  | some c => .literal [c]
  | none => .set s

/-- A list in which no two literals stand side by side. -/
def joinLiterals : List Form → List Form
  | [] => []
  | .literal a :: rest =>
    match joinLiterals rest with
    | .literal b :: rest => .literal (a ++ b) :: rest
    | rest => .literal a :: rest
  | a :: rest => a :: joinLiterals rest

def concat (parts : List Form) : Form :=
  let flat := parts.flatMap fun
    | .empty => []
    | .cat parts => parts
    | a => [a]
  match joinLiterals flat with
  | [] => .empty
  | [a] => a
  | parts => .cat parts

/-- A repetition. What matches the empty stretch only is never needed twice. -/
def repetition (a : Form) (min : Nat) (max : Option Nat) (lazy : Bool) : Form :=
  let (min, max) :=
    if a.isZeroWidth then (Nat.min min 1, some (Nat.min (max.getD 1) 1)) else (min, max)
  if min = 0 && max == some 0 then .empty
  else if min = 1 && max == some 1 then a
  else .repeat a min max lazy

/-! ## Choices -/

/-- The set of the character that a form stands for, if it is a single one. -/
def singleChar? : Form → Option CharSet
  | .literal [c] => some (.ofChar c)
  | _ => none

def set? : Form → Option CharSet
  | .set s => some s
  | _ => none

/-- The one set that branches make together if each is a character, or if each is a set. -/
def unionOf? (branches : List Form) : Option CharSet :=
  ((branches.mapM singleChar?).orElse fun _ => branches.mapM set?).map .unions

def parts? : Form → Option (List Form)
  | .cat parts => some parts
  | _ => none

/-- The number of parts that all concatenations start with. -/
def commonLength : List (List Form) → Nat
  | [] => 0
  | first :: rest => rest.foldl (fun n parts => Nat.min n (sharedPrefix first parts)) first.length

mutual

/-- How many forms a form is made of. -/
def weight : Form → Nat
  | .cat parts => weights parts + 1
  | .alt branches => weights branches + 1
  | .repeat a _ _ _ | .capture a => a.weight + 1
  | _ => 1

def weights : List Form → Nat
  | [] => 0
  | a :: rest => a.weight + weights rest

end

/-- The choice between branches. Each time that common parts are taken out, less remains. -/
def choiceWithin (fuel : Nat) (branches : List Form) : Form :=
  let flat := branches.flatMap fun
    | .alt branches => branches
    | a => [a]
  match flat with
  | [] => .set .none
  | [a] => a
  | flat =>
    match unionOf? flat, fuel, flat.mapM parts? with
    | some s, _, _ => .ofSet s
    | none, fuel + 1, some lists =>
      match commonLength lists with
      | 0 => .alt flat
      | n =>
        let common := lists.headD [] |>.take n
        concat (common ++ [choiceWithin fuel (lists.map fun parts => concat (parts.drop n))])
    | none, _, _ => .alt flat

/-- The choice between branches; one branch stands for itself. -/
def choice : List Form → Form
  | [a] => a
  | branches => choiceWithin (weights branches) branches

end Form

/-- The form of an expression that is given by its branches, and those by their parts. -/
def Form.ofBranches (branches : List (List Form)) : Form := .choice (branches.map .concat)

/-- The branches of an expression, each as its parts; what is no choice is its own only branch, and
what is no concatenation its own only part. -/
def Expr.branches : Expr → List (List Form)
  | .empty => [[]]
  | .set s => [[.ofSet s]]
  | .look l => [[.look l]]
  | .cat a b =>
    let rest := match b.branches with
      | [parts] => parts
      | branches => [.ofBranches branches]
    [.ofBranches a.branches :: rest]
  | .alt a b => [.ofBranches a.branches] :: b.branches
  | .repeat a min max lazy => [[.repetition (.ofBranches a.branches) min max lazy]]
  | .group captures a =>
    let form := Form.ofBranches a.branches
    [[if captures then .capture form else form]]

/-- The normal form of an expression. -/
def Expr.form (e : Expr) : Form := .ofBranches e.branches

end InstanceFilter.Pattern
