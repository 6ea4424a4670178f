/-
Texts in double quotes, as values print them: the quote, the backslash and the common control
characters have an escape of two characters, and every other character that shows no ink of its
own is written as its code point in hexadecimal.
-/
import InstanceFilter.Unicode.Property
import InstanceFilter.Unicode.Recent

namespace InstanceFilter.Text

open Unicode

/-- Characters written by their code point: controls, formats, unassigned and private ones,
separators other than the space, and those that extend the character before them. -/
def isInkless (c : Char) : Bool :=
  if c.toNat < 0x80 then c.toNat < 0x20 || c.toNat == 0x7F
  else (Category.other.contains c && !Recent.assigned.contains c) ||
    Category.separator.contains c ||
    Property.graphemeExtend.contains c || Recent.graphemeExtend.contains c

/-- A character as it stands between the quotes. -/
def escapeChar (c : Char) : List Char :=
  if c = '"' then ['\\', '"']
  else if c = '\\' then ['\\', '\\']
  else if c = '\n' then ['\\', 'n']
  else if c = '\r' then ['\\', 'r']
  else if c = '\t' then ['\\', 't']
  else if c = '\x00' then ['\\', '0']
  else if isInkless c then ['\\', 'u', '\x7b'] ++ Nat.toDigits 16 c.toNat ++ ['\x7d']
  else [c]

def quote (text : List Char) : List Char := '"' :: text.flatMap escapeChar ++ ['"']

end InstanceFilter.Text
