/-
Reading a TOML document: lines that file a value under a key, and headers that open a table for the
lines after them.
-/
import InstanceFilter.Toml.Scalar

namespace InstanceFilter.Toml

/-! ## Values -/

/-- The items between brackets, with commas between them and perhaps one after the last. Each item
is taken in by `add`. -/
def readItems {α : Type} (close : Char) (item : α → List Char → Option (α × List Char))
    (acc : α) (text : List Char) : Option (α × List Char) :=
  match skipLines text with
  | [] => none
  | c :: rest =>
    if c = close then some (acc, rest)
    else match item acc (c :: rest) with
      | none => none
      | some (acc, rest) =>
        match skipLines rest with
        | ',' :: rest =>
          if rest.length < text.length then readItems close item acc rest else none
        | c :: rest => if c = close then some (acc, rest) else none
        | [] => none
termination_by text.length

/-- A key, an equals sign and a value. -/
def readPair (value : List Char → Option (Value × List Char)) (text : List Char) :
    Option (((List String × String) × Value) × List Char) := do
  let (key, rest) ← readKey [] text
  let '=' :: rest := rest | none
  let (v, rest) ← value (skipSpaces rest)
  return ((key, v), rest)

/-- A value; arrays and inline tables may be nested to a depth. -/
def readValue : (depth : Nat) → List Char → Option (Value × List Char)
  | depth, text =>
    match text with
    | '"' :: _ | '\'' :: _ => (readString text).map fun (s, rest) => (.string s, rest)
    | '[' :: rest =>
      match depth with
      | 0 => none
      | depth + 1 =>
        let item (_ : Unit) (text : List Char) :=
          (readValue depth text).map fun (_, rest) => ((), rest)
        (readItems ']' item () rest).map fun (_, rest) => (.array, rest)
    | '\x7b' :: rest =>
      match depth with
      | 0 => none
      | depth + 1 =>
        let item (entries : Entries) (text : List Char) := do
          let (((path, key), v), rest) ← readPair (readValue depth) text
          return (← entries.addValue path key v, rest)
        (readItems '\x7d' item [] rest).map fun (_, rest) => (.inlineTable, rest)
    | _ => readScalar text

def deepest : Nat := 80

/-! ## Lines -/

/-- The tables so far, and the path of the one that lines add to. -/
structure State where
  root : Entries
  current : List String

/-- The key of a header, up to its brackets. -/
def readHeader (text : List Char) : Option ((List String × String) × List Char) := do
  let (key, rest) ← readKey [] (skipSpaces text)
  let ']' :: rest := rest | none
  return (key, rest)

/-- One line that is not empty. -/
def readLine (state : State) (text : List Char) : Option (State × List Char) :=
  match text with
  | '[' :: '[' :: rest => do
    let ((path, key), rest) ← readHeader rest
    let ']' :: rest := rest | none
    return (⟨← state.root.addToTables path key, path ++ [key]⟩, rest)
  | '[' :: rest => do
    let ((path, key), rest) ← readHeader rest
    return (⟨← state.root.addTable path key, path ++ [key]⟩, rest)
  | text => do
    let (((path, key), v), rest) ← readPair (readValue deepest) text
    let file (_ : Style) (entries : Entries) := entries.addValue path key v
    return ({ state with root := ← state.root.editAt false file .header state.current }, rest)

/-- All lines of a document. -/
def readLines (state : State) (text : List Char) : Option Entries :=
  match skipLines text with
  | [] => some state.root
  | '#' :: rest => if rest.all isPrintable then some state.root else none
  | start =>
    match readLine state start with
    | none => none
    | some (state, rest) =>
      match readLineEnd rest with
      | none => none
      | some rest => if rest.length < text.length then readLines state rest else none
termination_by text.length

/-- The top table of a document; a mark of byte order before it is skipped. -/
def read? (text : String) : Option Entries :=
  let lines := match text.toList with
    | '\uFEFF' :: rest => rest
    | text => text
  readLines ⟨[], []⟩ lines

end InstanceFilter.Toml
