/-
The syntax of patterns, as it is read: literals and classes of characters, assertions about a
place, groups with flags, repetitions, alternatives. The numbers and names of groups make no
difference to what a pattern matches or to its size, so the tree does not keep them.
-/

namespace InstanceFilter.Pattern

inductive Flag where
  | caseInsensitive
  | multiLine
  | dotMatchesLineEnd
  | swapGreed
  | unicode
  | crlf
  | verbose
  deriving Repr, DecidableEq

/-- One letter between `(?` and the end of a group's flags. -/
inductive FlagItem where
  | negation
  | flag (f : Flag)
  deriving Repr, DecidableEq

/-- A character; `isByte` when it was written with exactly two hexadecimal digits after `\x`. -/
structure Literal where
  char : Char
  isByte : Bool
  deriving Repr, DecidableEq

inductive Shorthand where
  | digit | space | word
  deriving Repr, DecidableEq

inductive AsciiClass where
  | alnum | alpha | ascii | blank | cntrl | digit | graph | lower | print | punct | space | upper
  | word | xdigit
  deriving Repr, DecidableEq

/-- A property of characters: by one name, or by the name of a property and of the value that it
has, or, if the query says that they differ, has not. -/
inductive PropertyQuery where
  | named (name : List Char)
  | valued (name value : List Char) (differs : Bool)
  deriving Repr, DecidableEq

inductive Assertion where
  | lineStart | lineEnd | textStart | textEnd
  | wordBoundary | notWordBoundary | wordStart | wordEnd | wordStartHalf | wordEndHalf
  deriving Repr, DecidableEq

inductive SetOperation where
  | intersection | difference | symmetricDifference
  deriving Repr, DecidableEq

mutual

inductive ClassItem where
  | literal (l : Literal)
  | range (first last : Literal)
  | ascii (kind : AsciiClass) (negated : Bool)
  | shorthand (kind : Shorthand) (negated : Bool)
  | property (query : PropertyQuery) (negated : Bool)
  | bracketed (negated : Bool) (set : ClassSet)

/-- What stands between the brackets of a class. -/
inductive ClassSet where
  | items (items : List ClassItem)
  | operation (op : SetOperation) (lhs rhs : ClassSet)

end

inductive Syntax where
  | empty
  | flags (items : List FlagItem)
  | literal (l : Literal)
  | dot
  | assertion (kind : Assertion)
  | shorthand (kind : Shorthand) (negated : Bool)
  | property (query : PropertyQuery) (negated : Bool)
  | bracketed (negated : Bool) (set : ClassSet)
  | repetition (min : Nat) (max : Option Nat) (lazy : Bool) (body : Syntax)
  | group (captures : Bool) (flags : List FlagItem) (body : Syntax)
  | alternation (branches : List Syntax)
  | concat (parts : List Syntax)

deriving instance Repr for ClassItem, ClassSet
deriving instance Repr for Syntax

namespace Syntax

/-- The concatenation of parts; one part stands for itself. -/
def ofParts : List Syntax → Syntax
  | [] => .empty
  | [part] => part
  | parts => .concat parts

/-- The choice between branches; one branch stands for itself. -/
def ofBranches : List Syntax → Syntax
  | [] => .empty
  | [branch] => branch
  | branches => .alternation branches

end Syntax

/-! ## Nesting -/

mutual

def ClassItem.depth : ClassItem → Nat
  | .bracketed _ set => set.depth + 1
  | _ => 0

def ClassSet.depth : ClassSet → Nat
  | .items [] => 0
  | .items [item] => item.depth
  | .items (item :: rest) => max item.depth (itemsDepth rest) + 1
  | .operation _ lhs rhs => max lhs.depth rhs.depth + 1

def itemsDepth : List ClassItem → Nat
  | [] => 0
  | item :: rest => max item.depth (itemsDepth rest)

end

mutual

/-- How deep the brackets, groups, repetitions, alternatives and concatenations are nested. -/
def Syntax.depth : Syntax → Nat
  | .bracketed _ set => set.depth + 1
  | .repetition _ _ _ body => body.depth + 1
  | .group _ _ body => body.depth + 1
  | .alternation branches => listDepth branches + 1
  | .concat parts => listDepth parts + 1
  | _ => 0

def listDepth : List Syntax → Nat
  | [] => 0
  | s :: rest => max s.depth (listDepth rest)

end

end InstanceFilter.Pattern
