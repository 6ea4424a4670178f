/-
Identifiers: one or more characters, each a letter, a number or the low line. Letters are the
characters with the property Alphabetic, numbers those of a number category.
-/
import InstanceFilter.Unicode.Property
import InstanceFilter.Unicode.Recent

namespace InstanceFilter.Text

open Unicode

def isAlphabetic (c : Char) : Bool :=
  c.isAlpha ||
    (c.toNat ≥ 0x80 && (Property.alphabetic.contains c || Recent.alphabetic.contains c))

def isAlphanumeric (c : Char) : Bool :=
  c.isDigit || isAlphabetic c ||
    (c.toNat ≥ 0x80 && (Category.number.contains c || Recent.number.contains c))

def isIdentifierChar (c : Char) : Bool := c == '_' || isAlphanumeric c

def isIdentifier (text : List Char) : Bool := !text.isEmpty && text.all isIdentifierChar

end InstanceFilter.Text
