/-
UTF-8 byte by byte. A range of characters is cut into pieces, each of which is a product: its
encodings are all the byte strings whose first byte lies in one range, whose second byte lies in
another, and so on. The pieces of ranges in ascending order are in ascending order too.
-/
import InstanceFilter.Unicode.CodeTable

namespace InstanceFilter.Unicode.Utf8

/-- The bytes from `first` to `last`, both included. -/
structure ByteRange where
  first : Nat
  last : Nat
  deriving Repr, DecidableEq

/-- A product of byte ranges, as long as the encodings in it. -/
abbrev Piece := List ByteRange

/-- The bytes that encode a code point. -/
def encode (point : Nat) : List Nat :=
  if point < 0x80 then [point]
  else if point < 0x800 then [0xC0 + point / 64, 0x80 + point % 64]
  else if point < 0x10000 then
    [0xE0 + point / 4096, 0x80 + point / 64 % 64, 0x80 + point % 64]
  else
    [0xF0 + point / 262144, 0x80 + point / 4096 % 64, 0x80 + point / 64 % 64, 0x80 + point % 64]

/-! ## Cutting -/

/-- Where a range has to be cut so that all its encodings are of one length: the last code point of
that length. -/
def lengthCut? (first last : Nat) : Option Nat :=
  [0x7F, 0x7FF, 0xFFFF].find? fun point => first ≤ point && point < last

/-- Where a range has to be cut so that the last bytes of its encodings, those for a place in a
block of `size` code points, do not depend on the bytes before them. -/
def blockCut? (first last size : Nat) : Option Nat :=
  if first / size = last / size then none
  else if first % size ≠ 0 then some (first / size * size + (size - 1))
  else if last % size ≠ size - 1 then some (last / size * size - 1)
  else none

/-- The last code point of the first part of a range that is no product. -/
def cut? (first last : Nat) : Option Nat :=
  (lengthCut? first last).orElse fun _ =>
    if last ≤ 0x7F then none
    else [64, 4096, 262144].findSome? (blockCut? first last)

/-- The pieces of a range without surrogates. -/
def piecesBetween (first last : Nat) : List Piece :=
  match cut? first last with
  | none => [(encode first).zipWith ByteRange.mk (encode last)]
  | some point =>
    if _h : first ≤ point ∧ point < last then
      piecesBetween first point ++ piecesBetween (point + 1) last
    else []
termination_by last - first

/-- The pieces of a range; the surrogates in it have no encoding. -/
def pieces (r : CodeRange) : List Piece :=
  if r.first < 0xE000 ∧ 0xD7FF < r.last then
    piecesBetween r.first 0xD7FF ++ piecesBetween 0xE000 r.last
  else piecesBetween r.first r.last

end InstanceFilter.Unicode.Utf8
