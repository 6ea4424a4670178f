/-
Finding a set of characters by the name of its property. Names are compared in a folded form: the
case of letters, blanks, hyphens and low lines make no difference, nor does "is" before the name.
-/
import InstanceFilter.Unicode.Age
import InstanceFilter.Unicode.GraphemeBreak
import InstanceFilter.Unicode.Script
import InstanceFilter.Unicode.ScriptExtension
import InstanceFilter.Unicode.SentenceBreak

namespace InstanceFilter.Unicode

/-! ## Names -/

/-- The folded form of a name. -/
def foldName (name : List Char) : List Char :=
  let (is, rest) := match name.map Char.toLower with
    | 'i' :: 's' :: rest => (true, rest)
    | name => (false, name)
  let folded := rest.filter fun c => c.toNat < 128 && c != ' ' && c != '_' && c != '-'
  -- "isc" is a name of its own and not the category C
  if is && folded = ['c'] then "isc".toList else folded

/-- What stands under a name in a list of entries with one or more names each. -/
def lookup {α : Type} (entries : List (List String × α)) (name : List Char) : Option α :=
  (entries.find? fun entry => entry.1.any (·.toList == name)).map (·.2)

abbrev Directory := List (List String × CharSet)

def properties : Directory := [
  (["asciihexdigit", "ahex"], Property.asciiHexDigit),
  (["alphabetic", "alpha"], Property.alphabetic),
  (["bidicontrol", "bidic"], Property.bidiControl),
  (["bidimirrored", "bidim"], Property.bidiMirrored),
  (["caseignorable", "ci"], Property.caseIgnorable),
  (["cased"], Property.cased),
  (["changeswhencasefolded", "cwcf"], Property.changesWhenCasefolded),
  (["changeswhencasemapped", "cwcm"], Property.changesWhenCasemapped),
  (["changeswhenlowercased", "cwl"], Property.changesWhenLowercased),
  (["changeswhentitlecased", "cwt"], Property.changesWhenTitlecased),
  (["changeswhenuppercased", "cwu"], Property.changesWhenUppercased),
  (["dash"], Property.dash),
  (["defaultignorablecodepoint", "di"], Property.defaultIgnorable),
  (["deprecated", "dep"], Property.deprecated),
  (["diacritic", "dia"], Property.diacritic),
  (["emoji"], Property.emoji),
  (["emojicomponent", "ecomp"], Property.emojiComponent),
  (["emojimodifier", "emod"], Property.emojiModifier),
  (["emojimodifierbase", "ebase"], Property.emojiModifierBase),
  (["emojipresentation", "epres"], Property.emojiPresentation),
  (["extendedpictographic", "extpict"], Property.extendedPictographic),
  (["extender", "ext"], Property.extender),
  (["graphemebase", "grbase"], Property.graphemeBase),
  (["graphemeextend", "grext"], Property.graphemeExtend),
  (["graphemelink", "grlink"], Property.graphemeLink),
  (["hexdigit", "hex"], Property.hexDigit),
  (["hyphen"], Property.hyphen),
  (["idsbinaryoperator", "idsb"], Property.idsBinaryOperator),
  (["idstrinaryoperator", "idst"], Property.idsTrinaryOperator),
  (["idsunaryoperator", "idsu"], Property.idsUnaryOperator),
  (["idcompatmathcontinue"], Property.idCompatMathContinue),
  (["idcompatmathstart"], Property.idCompatMathStart),
  (["idcontinue", "idc"], Property.idContinue),
  (["idstart", "ids"], Property.idStart),
  (["ideographic", "ideo"], Property.ideographic),
  (["joincontrol", "joinc"], Property.joinControl),
  (["logicalorderexception", "loe"], Property.logicalOrderException),
  (["lowercase", "lower"], Property.lowercase),
  (["math"], Property.math),
  (["modifiercombiningmark", "mcm"], Property.modifierCombiningMark),
  (["noncharactercodepoint", "nchar"], Property.noncharacter),
  (["otheralphabetic", "oalpha"], Property.otherAlphabetic),
  (["otherdefaultignorablecodepoint", "odi"], Property.otherDefaultIgnorable),
  (["othergraphemeextend", "ogrext"], Property.otherGraphemeExtend),
  (["otheridcontinue", "oidc"], Property.otherIdContinue),
  (["otheridstart", "oids"], Property.otherIdStart),
  (["otherlowercase", "olower"], Property.otherLowercase),
  (["othermath", "omath"], Property.otherMath),
  (["otheruppercase", "oupper"], Property.otherUppercase),
  (["patternsyntax", "patsyn"], Property.patternSyntax),
  (["patternwhitespace", "patws"], Property.patternWhiteSpace),
  (["prependedconcatenationmark", "pcm"], Property.prependedConcatenationMark),
  (["quotationmark", "qmark"], Property.quotationMark),
  (["radical"], Property.radical),
  (["regionalindicator", "ri"], Property.regionalIndicator),
  (["sentenceterminal", "sterm"], Property.sentenceTerminal),
  (["softdotted", "sd"], Property.softDotted),
  (["terminalpunctuation", "term"], Property.terminalPunctuation),
  (["unifiedideograph", "uideo"], Property.unifiedIdeograph),
  (["uppercase", "upper"], Property.uppercase),
  (["variationselector", "vs"], Property.variationSelector),
  (["whitespace", "wspace", "space"], Property.whiteSpace),
  (["xidcontinue", "xidc"], Property.xidContinue),
  (["xidstart", "xids"], Property.xidStart)]

def categories : Directory := [
  (["any"], .all),
  (["assigned"], Category.assigned),
  (["ascii"], .ascii),
  (["other", "c"], Category.other),
  (["control", "cc", "cntrl"], Category.control),
  (["format", "cf"], Category.format),
  (["unassigned", "cn"], Category.unassigned),
  (["privateuse", "co"], Category.privateUse),
  (["letter", "l"], Category.letter),
  (["casedletter", "lc"], Category.casedLetter),
  (["lowercaseletter", "ll"], Category.lowercaseLetter),
  (["modifierletter", "lm"], Category.modifierLetter),
  (["otherletter", "lo"], Category.otherLetter),
  (["titlecaseletter", "lt"], Category.titlecaseLetter),
  (["uppercaseletter", "lu"], Category.uppercaseLetter),
  (["mark", "m", "combiningmark"], Category.mark),
  (["spacingmark", "mc"], Category.spacingMark),
  (["enclosingmark", "me"], Category.enclosingMark),
  (["nonspacingmark", "mn"], Category.nonspacingMark),
  (["number", "n"], Category.number),
  (["decimalnumber", "nd", "digit"], Category.decimalNumber),
  (["letternumber", "nl"], Category.letterNumber),
  (["othernumber", "no"], Category.otherNumber),
  (["punctuation", "p", "punct"], Category.punctuation),
  (["connectorpunctuation", "pc"], Category.connectorPunctuation),
  (["dashpunctuation", "pd"], Category.dashPunctuation),
  (["closepunctuation", "pe"], Category.closePunctuation),
  (["finalpunctuation", "pf"], Category.finalPunctuation),
  (["initialpunctuation", "pi"], Category.initialPunctuation),
  (["otherpunctuation", "po"], Category.otherPunctuation),
  (["openpunctuation", "ps"], Category.openPunctuation),
  (["symbol", "s"], Category.symbol),
  (["currencysymbol", "sc"], Category.currencySymbol),
  (["modifiersymbol", "sk"], Category.modifierSymbol),
  (["mathsymbol", "sm"], Category.mathSymbol),
  (["othersymbol", "so"], Category.otherSymbol),
  (["separator", "z"], Category.separator),
  (["lineseparator", "zl"], Category.lineSeparator),
  (["paragraphseparator", "zp"], Category.paragraphSeparator),
  (["spaceseparator", "zs"], Category.spaceSeparator)]

/-! ## Queries -/

/-- The names of categories that also name a property, which is not meant. -/
def categoriesFirst : List (List Char) := ["cf".toList, "sc".toList, "lc".toList]

/-- The set that one name stands for: a property, else a category, else a script. -/
def namedSet? (name : List Char) : Option CharSet :=
  let name := foldName name
  let property := if categoriesFirst.contains name then none else lookup properties name
  property.orElse fun _ => (lookup categories name).orElse fun _ => lookup Script.table name

/-- The values of the properties that have more values than yes and no. -/
def valued : List (List String × Directory) := [
  (["age"], Age.table),
  (["generalcategory", "gc"], categories),
  (["graphemeclusterbreak", "gcb"], GraphemeBreak.table),
  (["script", "sc"], Script.table),
  (["scriptextensions", "scx"], ScriptExtension.table),
  (["sentencebreak", "sb"], SentenceBreak.table),
  (["wordbreak", "wb"], WordBreak.table)]

/-- The set of the characters for which a property has a value. -/
def valuedSet? (property value : List Char) : Option CharSet :=
  (lookup valued (foldName property)).bind fun values => lookup values (foldName value)

/-- The characters of words: letters, marks, decimal digits, connecting punctuation and joiners. -/
def wordSet : CharSet :=
  .unions [Property.alphabetic, Category.mark, Category.decimalNumber,
    Category.connectorPunctuation, Property.joinControl]

end InstanceFilter.Unicode
