/-
Object paths: references to one instance of a class, or to the class itself when no key is bound.
Host, namespace, class and key names are the same in any case of their ASCII letters; key bindings
stand in the order of their names.
-/
import InstanceFilter.Text.CaseFold

namespace InstanceFilter

/-- A whole number of 128 bits, sign included. -/
structure KeyInteger where
  toInt : Int
  inRange : -0x80000000000000000000000000000000 ≤ toInt ∧
    toInt < 0x80000000000000000000000000000000
  deriving DecidableEq

instance : Repr KeyInteger := ⟨fun n _ => repr n.toInt⟩

def KeyInteger.ofInt? (n : Int) : Option KeyInteger :=
  if h : -0x80000000000000000000000000000000 ≤ n ∧
      n < 0x80000000000000000000000000000000 then some ⟨n, h⟩ else none

def KeyInteger.ofInt64 (n : Int64) : KeyInteger :=
  ⟨n.toInt, by have := n.le_toInt; have := n.toInt_lt; omega⟩

mutual

/-- What a key property is bound to. -/
inductive KeyValue where
  | text (s : String)
  | boolean (b : Bool)
  | integer (n : KeyInteger)
  | reference (path : ObjectPath)

structure KeyBinding where
  name : String
  value : KeyValue

structure ObjectPath where
  host : Option String
  space : Option String
  className : String
  keys : List KeyBinding

end

deriving instance Repr for KeyValue, KeyBinding, ObjectPath
deriving instance Inhabited for KeyValue, KeyBinding, ObjectPath

/-! ## Equality -/

mutual

def KeyValue.same : KeyValue → KeyValue → Bool
  | .text s, .text t => s == t
  | .boolean a, .boolean b => a == b
  | .integer m, .integer n => m == n
  | .reference p, .reference q => p.same q
  | _, _ => false

/-- Paths are the same when their names are, in any case, and their key bindings pair up. -/
def ObjectPath.same : ObjectPath → ObjectPath → Bool
  | ⟨host, space, className, keys⟩, ⟨host', space', className', keys'⟩ =>
    Text.sameName? host host' && Text.sameName? space space' &&
      Text.sameName className className' && sameBindings keys keys'

def sameBindings : List KeyBinding → List KeyBinding → Bool
  | [], [] => true
  | ⟨name, value⟩ :: rest, ⟨name', value'⟩ :: rest' =>
    Text.sameName name name' && value.same value' && sameBindings rest rest'
  | _, _ => false

end

/-! ## What can be wrong with the text of a path -/

inductive ObjectPath.Error where
  | empty
  | hostWithoutNamespace
  | invalidClassName (name : String)
  | invalidKeyName (name : String)
  | missingKeys
  | duplicateKey (name : String)
  | unterminatedString (key : String)
  | invalidEscape (c : Char)
  | invalidKeyValue (key value : String)
  | trailingCharacter (c : Char)
  deriving Repr, DecidableEq

def ObjectPath.Error.message : ObjectPath.Error → String
  | .empty => "object path is empty"
  | .hostWithoutNamespace => "host must be followed by '/namespace:'"
  | .invalidClassName name => "invalid class name '" ++ name ++ "'"
  | .invalidKeyName name => "invalid key name '" ++ name ++ "'"
  | .missingKeys => "missing key bindings after '.'"
  | .duplicateKey name => "duplicate key '" ++ name ++ "'"
  | .unterminatedString key => "unterminated string value for key '" ++ key ++ "'"
  | .invalidEscape c => "invalid escape '\\" ++ c.toString ++ "'"
  | .invalidKeyValue key value => "invalid value '" ++ value ++ "' for key '" ++ key ++ "'"
  | .trailingCharacter c => "unexpected character '" ++ c.toString ++ "' after key value"

namespace ObjectPath

/-! ## Building paths -/

def ofClass (className : String) : ObjectPath := ⟨none, none, className, []⟩

/-- A namespace without the slashes before it; nothing left is no namespace. -/
def namespace? (text : String) : Option String :=
  match text.toList.dropWhile (· == '/') with
  | [] => none
  | rest => some (String.ofList rest)

/-- The path at a host and namespace; a host needs a namespace. -/
def atLocation (path : ObjectPath) (host space : String) : Except ObjectPath.Error ObjectPath :=
  match namespace? space with
  | some space => .ok { path with host := some host, space := some space }
  | none => .error .hostWithoutNamespace

/-- The path in a namespace; the empty namespace changes nothing. -/
def inNamespace (path : ObjectPath) (space : String) : ObjectPath :=
  match namespace? space with
  | some space => { path with space := some space }
  | none => path

/-- Bindings in the order of their names, those of one name in the order given. -/
def sortBindings (keys : List KeyBinding) : List KeyBinding :=
  keys.mergeSort fun a b => Text.nameLe a.name b.name

/-- The path with a key bound, in place of any binding of that name. -/
def withKey (path : ObjectPath) (name : String) (value : KeyValue) : ObjectPath :=
  let others := path.keys.filter fun binding => !Text.sameName binding.name name
  { path with keys := sortBindings (others ++ [⟨name, value⟩]) }

/-- What a key is bound to, under any spelling of its name. -/
def key? (path : ObjectPath) (name : String) : Option KeyValue :=
  (path.keys.find? fun binding => Text.sameName binding.name name).map KeyBinding.value

end ObjectPath

end InstanceFilter
