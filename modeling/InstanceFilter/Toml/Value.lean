/-
Values of a TOML document and the tables they are filed in. A table remembers how it came to be,
because that decides whether a later line may add to it: by a header of its own, by a longer
header, or by a dotted key.
-/

namespace InstanceFilter.Toml

inductive Value where
  | string (s : String)
  | integer (n : Int)
  | float
  | boolean (b : Bool)
  | dateTime
  /-- Arrays and inline tables are complete where they stand. -/
  | array
  | inlineTable
  deriving Repr, DecidableEq

inductive Style where
  | header | implied | dotted
  deriving Repr, DecidableEq

inductive Node where
  | value (v : Value)
  | table (style : Style) (entries : List (String × Node))
  /-- An array of tables, by the entries of its last table, to which headers add. -/
  | tables (last : List (String × Node))
  deriving Repr

abbrev Entries := List (String × Node)

namespace Entries

def find? (entries : Entries) (key : String) : Option Node :=
  (List.find? (fun entry => entry.1 == key) entries).map (·.2)

/-- The entries with a node under a key, in the place of the one there or at the end. -/
def put (key : String) (node : Node) : Entries → Entries
  | [] => [(key, node)]
  | (k, old) :: rest => if k = key then (key, node) :: rest else (k, old) :: put key node rest

/-- Edits the table at the end of a path, which is made on the way where it is missing. Dotted keys
do not reach into a table with a header of its own. -/
def editAt (dotted : Bool) (edit : Style → Entries → Option Entries) (style : Style) :
    (path : List String) → Entries → Option Entries
  | [], entries => edit style entries
  | key :: path, entries =>
    match entries.find? key with
    | none => do
      let style := if dotted then .dotted else .implied
      let inner ← editAt dotted edit style path []
      return entries.put key (.table style inner)
    | some (.value _) => none
    | some (.table style inner) =>
      if dotted ∧ style = .header then none
      else (editAt dotted edit style path inner).map fun inner =>
        entries.put key (.table style inner)
    | some (.tables last) =>
      (editAt dotted edit .header path last).map fun last => entries.put key (.tables last)

/-- Files a value under a dotted key, which must be new. -/
def addValue (path : List String) (key : String) (v : Value) (entries : Entries) :
    Option Entries :=
  let insert (style : Style) (entries : Entries) : Option Entries :=
    if (style = .dotted ↔ path = []) ∨ (entries.find? key).isSome then none
    else some (entries.put key (.value v))
  editAt true insert .header path entries

/-- Opens the table of a header, which must be new or only implied so far. -/
def addTable (path : List String) (key : String) (entries : Entries) : Option Entries :=
  let insert (_ : Style) (entries : Entries) : Option Entries :=
    match entries.find? key with
    | none => some (entries.put key (.table .header []))
    | some (.table .implied inner) => some (entries.put key (.table .header inner))
    | some _ => none
  editAt false insert .header path entries

/-- Opens the next table of an array of tables. -/
def addToTables (path : List String) (key : String) (entries : Entries) : Option Entries :=
  let insert (_ : Style) (entries : Entries) : Option Entries :=
    match entries.find? key with
    | none | some (.tables _) => some (entries.put key (.tables []))
    | some _ => none
  editAt false insert .header path entries

end Entries

end InstanceFilter.Toml
