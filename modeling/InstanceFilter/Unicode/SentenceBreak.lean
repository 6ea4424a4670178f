/-
Sentence_Break: what a character does at the boundaries of sentences. The values are stated from
other properties where the rules for sentences derive them so; characters with no value here have
the value Other.
-/
import InstanceFilter.Unicode.WordBreak

namespace InstanceFilter.Unicode.SentenceBreak

open Category Property

def extend : CharSet := .unions [graphemeExtend, Category.spacingMark, .ofText "200D"]

def format : CharSet := .union WordBreak.format (.ofText "70F 200B")

def space : CharSet := .diff whiteSpace (.ofText "A D 85 2028-2029")

/-- Letters of Georgian have no case within a sentence. -/
def uncased : CharSet := .ofText "10D0-10FA 10FD-10FF 1C90-1CBA 1CBD-1CBF"

def lower : CharSet := .diff lowercase (.union extend uncased)

def upper : CharSet := .diff (.union titlecaseLetter uppercase) uncased

def otherLetter : CharSet :=
  .union (.diff alphabetic (.unions [lower, upper, extend])) (.ofText "5F3")

def numeric : CharSet := .union WordBreak.numeric (.ofText "66C")

def terminalDot : CharSet := .ofText "2E 2024 FE52 FF0E"

def terminal : CharSet := .diff sentenceTerminal terminalDot

def close : CharSet :=
  .diff
    (.unions [openPunctuation, closePunctuation, initialPunctuation, finalPunctuation,
      quotationMark, .ofText "275B-2760 2E00-2E01 2E06-2E08 2E0B 1F676-1F678"])
    (.ofText "FF02 FF07")

def continues : CharSet := .ofText "
2C-2D 3A-3B 37E 55D 60C-60D 7F8 1802 1808 2013-2014 3001 FE10-FE11 FE13-FE14 FE31-FE32 FE50-FE51
FE54-FE55 FE58 FE63 FF0C-FF0D FF1A-FF1B FF64"

/-- The values under the folded spellings of their names. -/
def table : List (List String × CharSet) := [
  (["aterm", "at"], terminalDot),
  (["close", "cl"], close),
  (["cr"], .ofText "D"),
  (["extend", "ex"], extend),
  (["format", "fo"], format),
  (["lf"], .ofText "A"),
  (["lower", "lo"], lower),
  (["numeric", "nu"], numeric),
  (["oletter", "le"], otherLetter),
  (["scontinue", "sc"], continues),
  (["sep", "se"], .ofText "85 2028-2029"),
  (["sp"], space),
  (["sterm", "st"], terminal),
  (["upper", "up"], upper)]

end InstanceFilter.Unicode.SentenceBreak
