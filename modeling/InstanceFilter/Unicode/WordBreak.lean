/-
Word_Break: what a character does at the boundaries of words. The values are stated from other
properties where the rules for words derive them so; characters with no value here have the value
Other.
-/
import InstanceFilter.Unicode.Property

namespace InstanceFilter.Unicode.WordBreak

open Category Property

def extend : CharSet := .unions [graphemeExtend, spacingMark, emojiModifier]

def format : CharSet :=
  .diff Category.format (.unions [prependedConcatenationMark, extend, .ofText "200B-200D"])

def numeric : CharSet :=
  .unions [decimalNumber, .diff prependedConcatenationMark (.ofText "70F"), .ofText "66B 19DA"]

def katakana : CharSet := .ofText "
3031-3035 309B-309C 30A0-30FA 30FC-30FF 31F0-31FF 32D0-32FE 3300-3357 FF66-FF9D 1AFF0-1AFF3
1AFF5-1AFFB 1AFFD-1AFFE 1B000 1B120-1B122 1B155 1B164-1B167"

def hebrewLetter : CharSet := .ofText "
5D0-5EA 5EF-5F2 FB1D FB1F-FB28 FB2A-FB36 FB38-FB3C FB3E FB40-FB41 FB43-FB44 FB46-FB4F"

/-- Letters of scripts that put no blanks between words. -/
def unspaced : CharSet := .ofText "
E01-E30 E32-E33 E40-E46 E81-E82 E84 E86-E8A E8C-EA3 EA5 EA7-EB0 EB2-EB3 EBD EC0-EC4 EC6 EDC-EDF
1000-102A 103F 1050-1055 105A-105D 1061 1065-1066 106E-1070 1075-1081 108E 1780-17B3 17D7 17DC
1950-196D 1970-1974 1980-19AB 19B0-19C9 1A20-1A54 1AA7 3041-3096 309D-309F A9E0-A9E4 A9E6-A9EF
A9FA-A9FE AA60-AA76 AA7A AA7E-AAAF AAB1 AAB5-AAB6 AAB9-AABD AAC0 AAC2 AADB-AADD 11700-1171A
11740-11746 1B001-1B11F 1B132 1B150-1B152"

def letter : CharSet :=
  .union (.diff alphabetic (.unions [ideographic, katakana, hebrewLetter, extend, unspaced]))
    (.ofText "
B8 2C2-2C5 2D2-2D7 2DE-2DF 2E5-2EB 2ED 2EF-2FF 55A-55C 55E 58A 5F3 70F A708-A716 A720-A721 A789-A78A
AB5B")

def midLetter : CharSet := .ofText "3A B7 387 55F 5F4 2027 FE13 FE55 FF1A"

def midNumber : CharSet := .ofText "2C 3B 37E 589 60C-60D 66C 7F8 2044 FE50 FE54 FF0C FF1B"

def midNumberLetter : CharSet := .ofText "2E 2018-2019 2024 FE52 FF07 FF0E"

def extendNumberLetter : CharSet := .union connectorPunctuation (.ofText "202F")

def segmentSpace : CharSet := .diff spaceSeparator (.ofText "A0 2007 202F")

/-- The values under the folded spellings of their names. -/
def table : List (List String × CharSet) := [
  (["aletter", "le"], letter),
  (["cr"], .ofText "D"),
  (["doublequote", "dq"], .ofText "22"),
  (["extend"], extend),
  (["extendnumlet", "ex"], extendNumberLetter),
  (["format", "fo"], format),
  (["hebrewletter", "hl"], hebrewLetter),
  (["katakana", "ka"], katakana),
  (["lf"], .ofText "A"),
  (["midletter", "ml"], midLetter),
  (["midnum", "mn"], midNumber),
  (["midnumlet", "mb"], midNumberLetter),
  (["newline", "nl"], .ofText "B-C 85 2028-2029"),
  (["numeric", "nu"], numeric),
  (["regionalindicator", "ri"], regionalIndicator),
  (["singlequote", "sq"], .ofText "27"),
  (["wsegspace"], segmentSpace),
  (["zwj"], .ofText "200D")]

end InstanceFilter.Unicode.WordBreak
