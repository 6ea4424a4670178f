/-
The texts of a TOML document: comments, blanks, quoted strings of one line or several, and keys.
Each reader gives what it read with the text after it, or nothing when the text is malformed.
-/

namespace InstanceFilter.Toml

/-- Characters that may stand in a comment or string: no controls but the tab. -/
def isPrintable (c : Char) : Bool := c == '\t' || (c.toNat ≥ 0x20 && c.toNat != 0x7F)

def isSpace (c : Char) : Bool := c == ' ' || c == '\t'

def skipSpaces (text : List Char) : List Char := text.dropWhile isSpace

/-- The text after a line end, if there is one. -/
def lineEnd? : List Char → Option (List Char)
  | '\n' :: rest | '\r' :: '\n' :: rest => some rest
  | _ => none

/-- The text after a comment, if there is one, up to the end of its line. -/
def skipComment : List Char → List Char
  | '#' :: rest => rest.dropWhile isPrintable
  | text => text

/-- Spaces, comments and line ends, as they may stand between the items of an array. -/
def skipLines (text : List Char) : List Char :=
  match lineEnd? (skipComment (skipSpaces text)) with
  | some rest => if rest.length < text.length then skipLines rest else rest
  | none => skipSpaces text
termination_by text.length

/-- The end of a line: spaces and a comment, then a line end or the end of the document. -/
def readLineEnd (text : List Char) : Option (List Char) :=
  match skipComment (skipSpaces text) with
  | [] => some []
  | text => lineEnd? text

/-! ## Strings -/

def hexValue? (c : Char) : Option Nat :=
  if c.isDigit then some (c.toNat - '0'.toNat)
  else if 'a' ≤ c ∧ c ≤ 'f' then some (c.toNat - 'a'.toNat + 10)
  else if 'A' ≤ c ∧ c ≤ 'F' then some (c.toNat - 'A'.toNat + 10)
  else none

/-- The character whose code point is written with so many hexadecimal digits. -/
def codePoint (digits : Nat) (text : List Char) : Option (Char × List Char) := do
  let written := text.take digits
  let values ← written.mapM hexValue?
  let point := values.foldl (fun n d => 16 * n + d) 0
  if written.length < digits then none
  else if point.isValidChar then some (Char.ofNat point, text.drop digits)
  else none

/-- The character that a backslash and the text after it stand for. -/
def readEscape : List Char → Option (Char × List Char)
  | 'b' :: rest => some ('\x08', rest)
  | 't' :: rest => some ('\t', rest)
  | 'n' :: rest => some ('\n', rest)
  | 'f' :: rest => some ('\x0C', rest)
  | 'r' :: rest => some ('\r', rest)
  | 'e' :: rest => some ('\x1B', rest)
  | '"' :: rest => some ('"', rest)
  | '\\' :: rest => some ('\\', rest)
  | 'x' :: rest => codePoint 2 rest
  | 'u' :: rest => codePoint 4 rest
  | 'U' :: rest => codePoint 8 rest
  | _ => none

/-- What a reader of strings does with the text at hand. -/
inductive Piece where
  | finish (chars rest : List Char)
  | next (chars rest : List Char)
  deriving Repr

/-- Reads pieces until one is the last; a piece that takes no text ends the reading. -/
def readPieces (piece : List Char → Option Piece) (read : List Char) (text : List Char) :
    Option (String × List Char) :=
  match piece text with
  | none => none
  | some (.finish chars rest) => some (String.ofList (read ++ chars), rest)
  | some (.next chars rest) =>
    if rest.length < text.length then readPieces piece (read ++ chars) rest else none
termination_by text.length

def basicPiece : List Char → Option Piece
  | [] => none
  | '"' :: rest => some (.finish [] rest)
  | '\\' :: rest => (readEscape rest).map fun (c, rest) => .next [c] rest
  | c :: rest => if isPrintable c then some (.next [c] rest) else none

def literalPiece : List Char → Option Piece
  | [] => none
  | '\'' :: rest => some (.finish [] rest)
  | c :: rest => if isPrintable c then some (.next [c] rest) else none

/-- The end of a string of several lines: three quotes, and up to two more that belong to it. -/
def closing? (q : Char) (text : List Char) : Option Piece :=
  let run := text.takeWhile (· == q)
  if run.length < 3 then none
  else
    let own := Nat.min (run.length - 3) 2
    some (.finish (List.replicate own q) (text.drop (own + 3)))

/-- The text after a backslash at the end of a line: blanks and line ends are skipped. -/
def skipContinuation (text : List Char) : List Char :=
  text.dropWhile fun c => isSpace c || c == '\n' || c == '\r'

def longBasicPiece (text : List Char) : Option Piece :=
  (closing? '"' text).orElse fun _ =>
    match text with
    | [] => none
    | '\\' :: rest =>
      match readEscape rest with
      | some (c, rest) => some (.next [c] rest)
      | none => (lineEnd? (skipSpaces rest)).map fun rest => .next [] (skipContinuation rest)
    | c :: rest =>
      match lineEnd? text with
      | some rest => some (.next ['\n'] rest)
      | none => if isPrintable c then some (.next [c] rest) else none

def longLiteralPiece (text : List Char) : Option Piece :=
  (closing? '\'' text).orElse fun _ =>
    match text with
    | [] => none
    | c :: rest =>
      match lineEnd? text with
      | some rest => some (.next ['\n'] rest)
      | none => if isPrintable c then some (.next [c] rest) else none

/-- The text without the line end that may follow the opening quotes. -/
def skipFirstLineEnd (text : List Char) : List Char := (lineEnd? text).getD text

/-- A string in quotes of any kind. -/
def readString : List Char → Option (String × List Char)
  | '"' :: '"' :: '"' :: rest => readPieces longBasicPiece [] (skipFirstLineEnd rest)
  | '"' :: rest => readPieces basicPiece [] rest
  | '\'' :: '\'' :: '\'' :: rest => readPieces longLiteralPiece [] (skipFirstLineEnd rest)
  | '\'' :: rest => readPieces literalPiece [] rest
  | _ => none

/-! ## Keys -/

def isBareKeyChar (c : Char) : Bool := c.isAlphanum || c == '_' || c == '-'

/-- One part of a key: bare, or in quotes on one line. -/
def readKeyPart : List Char → Option (String × List Char)
  | '"' :: rest => readPieces basicPiece [] rest
  | '\'' :: rest => readPieces literalPiece [] rest
  | text =>
    let part := text.takeWhile isBareKeyChar
    if part.isEmpty then none else some (String.ofList part, text.dropWhile isBareKeyChar)

/-- A dotted key: the parts before its last part, and the last part. -/
def readKey (before : List String) (text : List Char) :
    Option ((List String × String) × List Char) :=
  match readKeyPart text with
  | none => none
  | some (part, rest) =>
    match skipSpaces rest with
    | '.' :: more =>
      let more := skipSpaces more
      if more.length < text.length then readKey (before ++ [part]) more else none
    | rest => some ((before, part), rest)
termination_by text.length

end InstanceFilter.Toml
