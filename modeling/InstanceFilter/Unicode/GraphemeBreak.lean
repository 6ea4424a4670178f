/-
Grapheme_Cluster_Break: what a character does at the boundaries of the units that readers take for
one character. The values are stated from other properties where the rules for clusters derive them
so; characters with no value here have the value Other.
-/
import InstanceFilter.Unicode.Property

namespace InstanceFilter.Unicode.GraphemeBreak

open Category Property

def extend : CharSet := .union graphemeExtend emojiModifier

def control : CharSet :=
  .diff (.unions [Category.control, lineSeparator, paragraphSeparator, format,
      .inter unassigned otherDefaultIgnorable])
    (.unions [.ofText "A D 200D", prependedConcatenationMark, graphemeExtend])

def prepend : CharSet := .union prependedConcatenationMark (.ofText "
D4E 111C2-111C3 113D1 1193F 11941 11A3A 11A84-11A89 11D46 11F02")

def spacingMark : CharSet :=
  .union (.diff Category.spacingMark (.union graphemeExtend exceptions)) (.ofText "E33 EB3")
where
  exceptions : CharSet := .ofText "
102B-102C 1038 1062-1064 1067-106D 1083 1087-108C 108F 109A-109C 1A61 1A63-1A64 AA7B AA7D
11720-11721"

/-! ## Syllables of Hangul -/

def leading : CharSet := .ofText "1100-115F A960-A97C"

def vowel : CharSet := .ofText "1160-11A7 D7B0-D7C6 16D63 16D67-16D6A"

def trailing : CharSet := .ofText "11A8-11FF D7CB-D7FB"

/-- Syllables come in groups of 28, of which the first has no trailing consonant. -/
def leadingVowel : CharSet :=
  .ofTable ((List.range 399).map fun k => ⟨0xAC00 + 28 * k, 0xAC00 + 28 * k⟩)

def leadingVowelTrailing : CharSet := .diff (.ofPoints 0xAC00 0xD7A3) leadingVowel

/-- The values under the folded spellings of their names. -/
def table : List (List String × CharSet) := [
  (["control", "cn"], control),
  (["cr"], .ofText "D"),
  (["extend", "ex"], extend),
  (["l"], leading),
  (["lf"], .ofText "A"),
  (["lv"], leadingVowel),
  (["lvt"], leadingVowelTrailing),
  (["prepend", "pp"], prepend),
  (["regionalindicator", "ri"], regionalIndicator),
  (["spacingmark", "sm"], spacingMark),
  (["t"], trailing),
  (["v"], vowel),
  (["zwj"], .ofText "200D")]

end InstanceFilter.Unicode.GraphemeBreak
