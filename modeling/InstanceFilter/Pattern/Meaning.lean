/-
From syntax to meaning. Flags are in force from where they stand to the end of their group, across
the bars between its branches. Without the unicode flag a pattern must still match whole characters
only, so whatever could match part of one is refused.
-/
import InstanceFilter.Pattern.Expr
import InstanceFilter.Pattern.Syntax

namespace InstanceFilter.Pattern

open Unicode

/-- The flags that bear on what a pattern matches or on its size. -/
structure Flags where
  caseInsensitive : Bool
  multiLine : Bool
  dotMatchesLineEnd : Bool
  swapGreed : Bool
  unicode : Bool
  crlf : Bool
  deriving Repr, DecidableEq

namespace Flags

def initial (caseInsensitive : Bool) : Flags := ⟨caseInsensitive, false, false, false, true, false⟩

def set (flags : Flags) (f : Flag) (on : Bool) : Flags :=
  match f with
  | .caseInsensitive => { flags with caseInsensitive := on }
  | .multiLine => { flags with multiLine := on }
  | .dotMatchesLineEnd => { flags with dotMatchesLineEnd := on }
  | .unicode => { flags with unicode := on }
  | .crlf => { flags with crlf := on }
  | .swapGreed => { flags with swapGreed := on }
  | .verbose => flags

/-- The flags after the items of a group: those after a minus sign are turned off. -/
def apply (flags : Flags) (items : List FlagItem) : Flags :=
  (items.foldl (fun (flags, on) item =>
    match item with
    | .negation => (flags, false)
    | .flag f => (flags.set f on, on)) (flags, true)).1

/-- A set as it is matched, every case of its members included when case is ignored. -/
def close (flags : Flags) (s : CharSet) : CharSet :=
  if !flags.caseInsensitive then s
  else if flags.unicode then .foldClosure s
  else .asciiFoldClosure s

end Flags

/-! ## Classes -/

/-- A set under its mark of negation. The negation of a set of ASCII characters is no set of whole
characters, so it needs the unicode flag. -/
def negate? (flags : Flags) (negated : Bool) (s : CharSet) : Option CharSet :=
  if !negated then some s else if flags.unicode then some (.compl s) else none

/-- The character of a literal; a byte beyond ASCII is no character. -/
def Literal.char? (flags : Flags) (l : Literal) : Option Char :=
  if !flags.unicode && l.isByte && l.char.toNat > 0x7F then none else some l.char

/-- The character of a literal in a class, which without the unicode flag holds ASCII only. -/
def Literal.classChar? (flags : Flags) (l : Literal) : Option Char :=
  if flags.unicode || l.char.toNat ≤ 0x7F then some l.char else none

def AsciiClass.set : AsciiClass → CharSet
  | .alnum => .ofText "30-39 41-5A 61-7A"
  | .alpha => .ofText "41-5A 61-7A"
  | .ascii => .ascii
  | .blank => .ofText "9 20"
  | .cntrl => .ofText "0-1F 7F"
  | .digit => .ofText "30-39"
  | .graph => .ofText "21-7E"
  | .lower => .ofText "61-7A"
  | .print => .ofText "20-7E"
  | .punct => .ofText "21-2F 3A-40 5B-60 7B-7E"
  | .space => .ofText "9-D 20"
  | .upper => .ofText "41-5A"
  | .word => .ofText "30-39 41-5A 5F 61-7A"
  | .xdigit => .ofText "30-39 41-46 61-66"

def Shorthand.set (flags : Flags) : Shorthand → CharSet
  | .digit => if flags.unicode then Category.decimalNumber else AsciiClass.digit.set
  | .space => if flags.unicode then Property.whiteSpace else AsciiClass.space.set
  | .word => if flags.unicode then wordSet else AsciiClass.word.set

/-- The characters that a query names, before any negation. -/
def PropertyQuery.set? : PropertyQuery → Option CharSet
  | .named name => namedSet? name
  | .valued name value _ => valuedSet? name value

def PropertyQuery.differs : PropertyQuery → Bool
  | .named _ => false
  | .valued _ _ differs => differs

/-- The characters with a property, which only the unicode flag admits. A value that differs is one
negation, and a capital letter before the query is another. -/
def propertySet? (flags : Flags) (query : PropertyQuery) (negated : Bool) : Option CharSet :=
  if !flags.unicode then none
  else query.set?.bind fun s => negate? flags (negated != query.differs) (flags.close s)

mutual

def ClassItem.set? (flags : Flags) : ClassItem → Option CharSet
  | .literal l => (l.classChar? flags).map .ofChar
  | .range first last => do
    let first ← first.classChar? flags
    let last ← last.classChar? flags
    return .ofRange first last
  | .ascii kind negated => negate? flags negated (flags.close kind.set)
  | .shorthand kind negated => negate? flags negated (kind.set flags)
  | .property query negated => propertySet? flags query negated
  | .bracketed negated set => (set.set? flags).bind fun s => negate? flags negated (flags.close s)

/-- The set between brackets, before its own negation. Both sides of an operator are closed under
case before they meet. -/
def ClassSet.set? (flags : Flags) : ClassSet → Option CharSet
  | .items items => itemsSet? flags items
  | .operation op lhs rhs => do
    let lhs := flags.close (← lhs.set? flags)
    let rhs := flags.close (← rhs.set? flags)
    match op with
    | .intersection => return .inter lhs rhs
    | .difference => return .diff lhs rhs
    | .symmetricDifference => return .symmDiff lhs rhs

def itemsSet? (flags : Flags) : List ClassItem → Option CharSet
  | [] => some .none
  | item :: rest => do
    let s ← item.set? flags
    return .union s (← itemsSet? flags rest)

end

/-! ## Patterns -/

def Assertion.look (flags : Flags) : Assertion → Look
  | .lineStart =>
    if !flags.multiLine then .start else if flags.crlf then .startLineCrlf else .startLine
  | .lineEnd =>
    if !flags.multiLine then .finish else if flags.crlf then .endLineCrlf else .endLine
  | .textStart => .start
  | .textEnd => .finish
  | .wordBoundary => .wordBoundary (!flags.unicode)
  | .notWordBoundary => .notWordBoundary (!flags.unicode)
  | .wordStart => .wordStart (!flags.unicode)
  | .wordEnd => .wordEnd (!flags.unicode)
  | .wordStartHalf => .wordStartHalf (!flags.unicode)
  | .wordEndHalf => .wordEndHalf (!flags.unicode)

/-- The characters that a dot matches. -/
def dotSet (flags : Flags) : CharSet :=
  if flags.dotMatchesLineEnd then .all
  else if flags.crlf then .compl (.ofText "A D")
  else .compl (.ofText "A")

mutual

/-- The meaning of a pattern under the flags in force before it, and the flags in force after. -/
def Syntax.expr? (flags : Flags) : Syntax → Option (Expr × Flags)
  | .empty => some (.empty, flags)
  | .flags items => some (.empty, flags.apply items)
  | .literal l => (l.char? flags).map fun c => (.set (flags.close (.ofChar c)), flags)
  | .dot => if flags.unicode then some (.set (dotSet flags), flags) else none
  | .assertion kind => some (.look (kind.look flags), flags)
  | .shorthand kind negated =>
    (negate? flags negated (kind.set flags)).map fun s => (.set s, flags)
  | .property query negated => (propertySet? flags query negated).map fun s => (.set s, flags)
  | .bracketed negated set => do
    let s ← set.set? flags
    let s ← negate? flags negated (flags.close s)
    return (.set s, flags)
  | .repetition min max lazy body => do
    let (body, flags) ← body.expr? flags
    return (.repeat body min max (lazy != flags.swapGreed), flags)
  | .group captures items body => do
    let (body, _) ← body.expr? (flags.apply items)
    return (.group captures body, flags)
  | .alternation branches => do
    let (branches, flags) ← exprs? flags branches
    return (.alts branches, flags)
  | .concat parts => do
    let (parts, flags) ← exprs? flags parts
    return (.cats parts, flags)

def exprs? (flags : Flags) : List Syntax → Option (List Expr × Flags)
  | [] => some ([], flags)
  | s :: rest => do
    let (e, flags) ← s.expr? flags
    let (es, flags) ← exprs? flags rest
    return (e :: es, flags)

end

end InstanceFilter.Pattern
