/-
Reading the smallest parts of a pattern: numbers, escapes and the names of character properties.
Each reader takes the text at its part and gives the part with the text after it, or nothing when
the part is malformed.
-/
import InstanceFilter.Pattern.Blank
import InstanceFilter.Pattern.Syntax
import InstanceFilter.Unicode.CodeTable

namespace InstanceFilter.Pattern

/-- A part that stands for one character or for none, outside or inside a class. -/
inductive Atom where
  | literal (l : Literal)
  | dot
  | assertion (kind : Assertion)
  | shorthand (kind : Shorthand) (negated : Bool)
  | property (query : PropertyQuery) (negated : Bool)
  deriving Repr, DecidableEq

/-! ## Numbers -/

/-- Digits in base ten, blanks allowed between them in verbose patterns. -/
def readDigits (verbose : Bool) (digits : List Char) (text : List Char) : List Char × List Char :=
  match text with
  | c :: rest =>
    if c.isDigit then readDigits verbose (digits ++ [c]) (skip verbose rest)
    else (digits, c :: rest)
  | [] => (digits, [])
termination_by text.length
decreasing_by
  have := length_skip_le verbose rest
  simp only [List.length_cons]
  omega

/-- A count of 32 bits with blanks around it. -/
def readCount (verbose : Bool) (text : List Char) : Option (Nat × List Char) :=
  let (digits, rest) := readDigits verbose [] (Text.trimLeft text)
  let n := digits.foldl (fun n d => 10 * n + (d.toNat - '0'.toNat)) 0
  if digits.isEmpty || n ≥ 0x100000000 then none else some (n, skip verbose (Text.trimLeft rest))

/-! ## Characters by code point -/

/-- The character of a code point, if there is one. -/
def charOf? (point : Nat) : Option Char :=
  if h : point.isValidChar then some (Char.ofNatAux point h) else none

/-- Exactly `count` hexadecimal digits. -/
def readHexFixed (verbose : Bool) (count value : Nat) : List Char → Option (Nat × List Char)
  | [] => if count = 0 then some (value, []) else none
  | c :: rest =>
    match count with
    | 0 => some (value, c :: rest)
    | count + 1 => (Unicode.hexDigit? c).bind fun d =>
        readHexFixed verbose count (16 * value + d) (skip verbose rest)

/-- Hexadecimal digits up to a closing brace. -/
def readHexBraced (verbose : Bool) (value : Option Nat) (text : List Char) :
    Option (Nat × List Char) :=
  match text with
  | [] => none
  | c :: rest =>
    if c = '\x7d' then value.map fun value => (value, skip verbose rest)
    else match Unicode.hexDigit? c with
      | none => none
      | some d => readHexBraced verbose (some (16 * value.getD 0 + d)) (skip verbose rest)
termination_by text.length
decreasing_by
  have := length_skip_le verbose rest
  simp only [List.length_cons]
  omega

/-- A character by its code point, after the letter that says how many digits there are. -/
def readHex (verbose : Bool) (count : Nat) (text : List Char) : Option (Literal × List Char) :=
  match skip verbose text with
  | [] => none
  | '\x7b' :: rest => do
    let (point, rest) ← readHexBraced verbose none (skip verbose rest)
    let c ← charOf? point
    return (⟨c, false⟩, rest)
  | text => do
    let (point, rest) ← readHexFixed verbose count 0 text
    let c ← charOf? point
    return (⟨c, count == 2⟩, rest)

/-! ## Properties -/

/-- The text before the first `separator`, and the text after it. -/
def splitAtText (separator : List Char) : List Char → Option (List Char × List Char)
  | [] => none
  | c :: rest =>
    if separator.isPrefixOf (c :: rest) then some ([], (c :: rest).drop separator.length)
    else (splitAtText separator rest).map fun (before, after) => (c :: before, after)

/-- What the text in the braces of a property asks for. -/
def propertyQuery (text : List Char) : PropertyQuery :=
  match splitAtText ['!', '='] text with
  | some (name, value) => .valued name value true
  | none =>
    match (splitAtText [':'] text).orElse fun _ => splitAtText ['='] text with
    | some (name, value) => .valued name value false
    | none => .named text

/-- The name of a property up to its closing brace. -/
def readBracedName (verbose : Bool) (name text : List Char) : Option (List Char × List Char) :=
  match text with
  | [] => none
  | c :: rest =>
    if c = '\x7d' then some (name, rest)
    else readBracedName verbose (name ++ [c]) (skip verbose rest)
termination_by text.length
decreasing_by
  have := length_skip_le verbose rest
  simp only [List.length_cons]
  omega

/-- A property after its letter: one letter, or a name in braces. -/
def readProperty (verbose : Bool) (text : List Char) : Option (PropertyQuery × List Char) :=
  match skip verbose text with
  | [] => none
  | '\x7b' :: rest =>
    (readBracedName verbose [] (skip verbose rest)).map fun (name, rest) =>
      (propertyQuery name, rest)
  | '\\' :: _ => none
  | c :: rest => some (.named [c], skip verbose rest)

/-! ## Escapes -/

/-- The characters that have a meaning of their own somewhere in a pattern. -/
def metaCharacters : List Char :=
  ['\\', '.', '+', '*', '?', '(', ')', '|', '[', ']', '\x7b', '\x7d', '^', '$', '#', '&', '-', '~']

/-- Characters that stand for themselves after a backslash. -/
def isEscapable (c : Char) : Bool :=
  metaCharacters.contains c ||
    (c.toNat < 128 && !c.isAlphanum && c != '<' && c != '>')

/-- The letters between the braces of a special word boundary. -/
def readBoundaryName (verbose : Bool) (name : List Char) (text : List Char) :
    List Char × List Char :=
  match text with
  | c :: rest =>
    if c.isAlpha || c == '-' then readBoundaryName verbose (name ++ [c]) (skip verbose rest)
    else (name, c :: rest)
  | [] => (name, [])
termination_by text.length
decreasing_by
  have := length_skip_le verbose rest
  simp only [List.length_cons]
  omega

/-- A word boundary, whose name may follow in braces; braces that start with no letter or hyphen
are the count of a repetition. -/
def readWordBoundary (verbose : Bool) (text : List Char) : Option (Assertion × List Char) :=
  match text with
  | '\x7b' :: rest =>
    match skip verbose rest with
    | [] => none
    | c :: inner =>
      if !(c.isAlpha || c == '-') then some (.wordBoundary, text)
      else match readBoundaryName verbose [] (c :: inner) with
        | (name, '\x7d' :: after) =>
          if name = "start".toList then some (.wordStart, after)
          else if name = "end".toList then some (.wordEnd, after)
          else if name = "start-half".toList then some (.wordStartHalf, after)
          else if name = "end-half".toList then some (.wordEndHalf, after)
          else none
        | _ => none
  | _ => some (.wordBoundary, text)

/-- What a backslash and the text after it stand for. -/
def readEscape (verbose : Bool) : List Char → Option (Atom × List Char)
  | [] => none
  | c :: rest =>
    let literal (c : Char) : Option (Atom × List Char) := some (.literal ⟨c, false⟩, rest)
    let shorthand (kind : Shorthand) (negated : Bool) : Option (Atom × List Char) :=
      some (.shorthand kind negated, rest)
    let assertion (kind : Assertion) : Option (Atom × List Char) := some (.assertion kind, rest)
    let hex (count : Nat) : Option (Atom × List Char) :=
      (readHex verbose count rest).map fun (l, rest) => (.literal l, rest)
    let property (negated : Bool) : Option (Atom × List Char) :=
      (readProperty verbose rest).map fun (query, rest) => (.property query negated, rest)
    match c with
    | 'x' => hex 2
    | 'u' => hex 4
    | 'U' => hex 8
    | 'p' => property false
    | 'P' => property true
    | 'd' => shorthand .digit false
    | 'D' => shorthand .digit true
    | 's' => shorthand .space false
    | 'S' => shorthand .space true
    | 'w' => shorthand .word false
    | 'W' => shorthand .word true
    | 'a' => literal '\x07'
    | 'f' => literal '\x0C'
    | 't' => literal '\t'
    | 'n' => literal '\n'
    | 'r' => literal '\r'
    | 'v' => literal '\x0B'
    | 'A' => assertion .textStart
    | 'z' => assertion .textEnd
    | 'B' => assertion .notWordBoundary
    | '<' => assertion .wordStart
    | '>' => assertion .wordEnd
    | 'b' => (readWordBoundary verbose rest).map fun (kind, rest) => (.assertion kind, rest)
    | c => if isEscapable c then literal c else none

end InstanceFilter.Pattern
