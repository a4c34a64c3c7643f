import DslOutline.Charset.Basic
import DslOutline.Charset.PropertyTable

/-!
# Properties of characters

The tables list general categories and what does not follow from them. From both come the properties
that a pattern can ask for by name, and the letters of names.
-/

namespace DslOutline

/-!
## General categories

Every character is in one general category. Patterns ask for a category, or for the union of those
with the same first letter, under a short or a long name.
-/

namespace Charset

/-- The union of tables. -/
def ofTables (tables : List Ranges) : Charset :=
  unions (tables.map Charset.mk)

/-- Letters that have a case. -/
def casedLetters : Charset := ofTables [categoryLu, categoryLl, categoryLt]

/-- All letters. -/
def letters : Charset := ofTables [categoryLu, categoryLl, categoryLt, categoryLm, categoryLo]

/-- All marks. -/
def marks : Charset := ofTables [categoryMn, categoryMc, categoryMe]

/-- All numbers. -/
def numbers : Charset := ofTables [categoryNd, categoryNl, categoryNo]

/-- All punctuation. -/
def punctuation : Charset :=
  ofTables
    [categoryPc, categoryPd, categoryPs, categoryPe, categoryPi, categoryPf, categoryPo]

/-- All symbols. -/
def symbols : Charset := ofTables [categorySm, categorySc, categorySk, categorySo]

/-- All separators. -/
def separators : Charset := ofTables [categoryZs, categoryZl, categoryZp]

/-- Controls, format characters and characters for private use. -/
def otherAssigned : Charset := ofTables [categoryCc, categoryCf, categoryCo]

/-- The assigned characters. -/
def assigned : Charset :=
  unions [letters, marks, numbers, punctuation, symbols, separators, otherAssigned]

/-- Sets under names, which are in lower case and without separators. -/
abbrev Directory := List (List String × Charset)

/-- The set under a name. -/
def Directory.get? (d : Directory) (name : String) : Option Charset :=
  (d.find? fun entry => entry.1.contains name).map Prod.snd

/-- The general categories. -/
def categories : Directory :=
  [(["l", "letter"], letters), (["lu", "uppercaseletter"], ⟨categoryLu⟩),
   (["ll", "lowercaseletter"], ⟨categoryLl⟩), (["lt", "titlecaseletter"], ⟨categoryLt⟩),
   (["lc", "casedletter"], casedLetters), (["lm", "modifierletter"], ⟨categoryLm⟩),
   (["lo", "otherletter"], ⟨categoryLo⟩), (["m", "mark", "combiningmark"], marks),
   (["mn", "nonspacingmark"], ⟨categoryMn⟩), (["mc", "spacingmark"], ⟨categoryMc⟩),
   (["me", "enclosingmark"], ⟨categoryMe⟩), (["n", "number"], numbers),
   (["nd", "decimalnumber", "digit"], ⟨categoryNd⟩), (["nl", "letternumber"], ⟨categoryNl⟩),
   (["no", "othernumber"], ⟨categoryNo⟩), (["p", "punctuation", "punct"], punctuation),
   (["pc", "connectorpunctuation"], ⟨categoryPc⟩), (["pd", "dashpunctuation"], ⟨categoryPd⟩),
   (["ps", "openpunctuation"], ⟨categoryPs⟩), (["pe", "closepunctuation"], ⟨categoryPe⟩),
   (["pi", "initialpunctuation"], ⟨categoryPi⟩), (["pf", "finalpunctuation"], ⟨categoryPf⟩),
   (["po", "otherpunctuation"], ⟨categoryPo⟩), (["s", "symbol"], symbols),
   (["sm", "mathsymbol"], ⟨categorySm⟩), (["sc", "currencysymbol"], ⟨categorySc⟩),
   (["sk", "modifiersymbol"], ⟨categorySk⟩), (["so", "othersymbol"], ⟨categorySo⟩),
   (["z", "separator"], separators), (["zs", "spaceseparator"], ⟨categoryZs⟩),
   (["zl", "lineseparator"], ⟨categoryZl⟩), (["zp", "paragraphseparator"], ⟨categoryZp⟩),
   (["c", "other"], otherAssigned.union assigned.compl),
   (["cc", "control", "cntrl"], ⟨categoryCc⟩), (["cf", "format"], ⟨categoryCf⟩),
   (["cn", "unassigned"], assigned.compl), (["co", "privateuse"], ⟨categoryCo⟩),
   (["any"], all), (["assigned"], assigned), (["ascii"], ascii)]

/-!
## Properties that a character has or lacks

Many properties follow from general categories and a few exceptions; these are defined here, so
that their tables need not repeat the categories.
-/

/-! ### Letters and case -/

/-- Lowercase characters. -/
def lowercase : Charset := ofTables [categoryLl, otherLowercase]

/-- Uppercase characters. -/
def uppercase : Charset := ofTables [categoryLu, otherUppercase]

/-- Alphabetic characters. -/
def alphabetic : Charset :=
  letters.union (ofTables [categoryNl, otherAlphabetic])

/-- Characters that have a case. -/
def cased : Charset := unions [lowercase, uppercase, ⟨categoryLt⟩]

/-- Punctuation that may stand inside a word: points, colons and apostrophes. -/
def midWord : Charset :=
  ⟨[(0x27, 0x27), (0x2E, 0x2E), (0x3A, 0x3A), (0xB7, 0xB7), (0x387, 0x387), (0x55F, 0x55F),
    (0x5F4, 0x5F4), (0x2018, 0x2019), (0x2024, 0x2024), (0x2027, 0x2027), (0xFE13, 0xFE13),
    (0xFE52, 0xFE52), (0xFE55, 0xFE55), (0xFF07, 0xFF07), (0xFF0E, 0xFF0E), (0xFF1A, 0xFF1A)]⟩

/-- Characters that make no difference to the case of a word. -/
def caseIgnorable : Charset :=
  (ofTables [categoryMn, categoryMe, categoryCf, categoryLm, categorySk]).union midWord

/-- Characters with a lowercase counterpart: besides letters, roman numerals and letters in
circles. -/
def changesWhenLowercased : Charset :=
  (unions [⟨categoryLu⟩, ⟨categoryLt⟩, ⟨[(0x2160, 0x216F), (0x24B6, 0x24CF)]⟩]).diff
    ⟨withoutLowercase⟩

/-- Letters in titlecase that have an iota beside them. -/
def titlecaseGreek : Charset :=
  ⟨[(0x1F88, 0x1F8F), (0x1F98, 0x1F9F), (0x1FA8, 0x1FAF), (0x1FBC, 0x1FBC), (0x1FCC, 0x1FCC),
    (0x1FFC, 0x1FFC)]⟩

/-- Pairs of letters in titlecase. -/
def titlecasePairs : Charset :=
  ⟨[(0x1C5, 0x1C5), (0x1C8, 0x1C8), (0x1CB, 0x1CB), (0x1F2, 0x1F2)]⟩

/-- Pairs of letters in upper case. -/
def uppercasePairs : Charset :=
  ⟨[(0x1C4, 0x1C4), (0x1C7, 0x1C7), (0x1CA, 0x1CA), (0x1F1, 0x1F1)]⟩

/-- Characters with an uppercase counterpart: besides letters, the iota below, roman numerals and
letters in circles. -/
def changesWhenUppercased : Charset :=
  (unions
    [⟨categoryLl⟩, titlecaseGreek, titlecasePairs,
      ⟨[(0x345, 0x345), (0x2170, 0x217F), (0x24D0, 0x24E9)]⟩]).diff ⟨withoutUppercase⟩

/-- Characters with a titlecase counterpart. Georgian has capitals, but no titlecase. -/
def changesWhenTitlecased : Charset :=
  (changesWhenUppercased.diff
    (unions [titlecaseGreek, titlecasePairs, ⟨[(0x10D0, 0x10FA), (0x10FD, 0x10FF)]⟩])).union
      uppercasePairs

/-- Characters that case folding changes. Cherokee is folded to its capitals. -/
def changesWhenCasefolded : Charset :=
  (changesWhenLowercased.diff ⟨[(0x13A0, 0x13F5)]⟩).union ⟨foldedOnly⟩

/-- Characters that have a counterpart of another case. -/
def changesWhenCasemapped : Charset :=
  unions [changesWhenLowercased, changesWhenUppercased, changesWhenTitlecased]

/-! ### Identifiers -/

/-- Characters with a fixed meaning in patterns, which no identifier contains. -/
def patternReserved : Charset := ofTables [patternSyntax, patternWhiteSpace]

/-- Characters that may start an identifier. -/
def idStart : Charset :=
  (letters.union (ofTables [categoryNl, otherIdStart])).diff patternReserved

/-- Characters that may continue an identifier. -/
def idContinue : Charset :=
  (idStart.union
    (ofTables [categoryMn, categoryMc, categoryNd, categoryPc, otherIdContinue])).diff
      patternReserved

/-! ### Graphemes -/

/-- Characters that extend a grapheme. -/
def graphemeExtend : Charset :=
  ofTables [categoryMn, categoryMe, otherGraphemeExtend]

/-- Characters that a grapheme is built on. -/
def graphemeBase : Charset :=
  assigned.diff
    (unions [otherAssigned, ⟨categoryZl⟩, ⟨categoryZp⟩, graphemeExtend])

/-- Code points that are not displayed unless a font knows them. Annotations, hieroglyphic controls
and signs that enclose a number are displayed. -/
def defaultIgnorable : Charset :=
  (ofTables [otherDefaultIgnorable, categoryCf, variationSelector]).diff
    (unions [blank, ⟨[(0xFFF9, 0xFFFB), (0x13430, 0x13440)]⟩, ⟨prependedMark⟩])

/-! ### The properties by name -/

/-- The properties that a character has or lacks. -/
def binaryProperties : Directory :=
  [(["alphabetic", "alpha"], alphabetic), (["lowercase", "lower"], lowercase),
   (["uppercase", "upper"], uppercase), (["whitespace", "wspace", "space"], blank),
   (["asciihexdigit", "ahex"], ⟨asciiHexDigit⟩), (["bidicontrol", "bidic"], ⟨bidiControl⟩),
   (["caseignorable", "ci"], caseIgnorable), (["cased"], cased),
   (["changeswhencasefolded", "cwcf"], changesWhenCasefolded),
   (["changeswhencasemapped", "cwcm"], changesWhenCasemapped),
   (["changeswhenlowercased", "cwl"], changesWhenLowercased),
   (["changeswhentitlecased", "cwt"], changesWhenTitlecased),
   (["changeswhenuppercased", "cwu"], changesWhenUppercased), (["dash"], ⟨dash⟩),
   (["defaultignorablecodepoint", "di"], defaultIgnorable),
   (["deprecated", "dep"], ⟨deprecatedChars⟩), (["diacritic", "dia"], ⟨diacritic⟩),
   (["emoji"], ⟨emoji⟩), (["emojicomponent", "ecomp"], ⟨emojiComponent⟩),
   (["emojimodifier", "emod"], ⟨emojiModifier⟩),
   (["emojimodifierbase", "ebase"], ⟨emojiModifierBase⟩),
   (["emojipresentation", "epres"], ⟨emojiPresentation⟩),
   (["extendedpictographic", "extpict"], ⟨extendedPictographic⟩),
   (["extender", "ext"], ⟨extender⟩), (["graphemebase", "grbase"], graphemeBase),
   (["graphemeextend", "grext"], graphemeExtend), (["graphemelink", "grlink"], ⟨graphemeLink⟩),
   (["hexdigit", "hex"], ⟨hexDigit⟩), (["hyphen"], ⟨hyphen⟩),
   (["idsbinaryoperator", "idsb"], ⟨binaryDescription⟩),
   (["idstrinaryoperator", "idst"], ⟨trinaryDescription⟩),
   (["idsunaryoperator", "idsu"], ⟨unaryDescription⟩),
   (["idcompatmathstart"], ⟨compatMathStart⟩),
   (["idcompatmathcontinue"], ofTables [compatMathStart, compatMathScripts]),
   (["idcontinue", "idc"], idContinue), (["idstart", "ids"], idStart),
   (["ideographic", "ideo"], ⟨ideographic⟩), (["joincontrol", "joinc"], ⟨joinControl⟩),
   (["logicalorderexception", "loe"], ⟨logicalOrderException⟩),
   (["math"], ofTables [categorySm, otherMath]),
   (["modifiercombiningmark", "mcm"], ⟨modifierCombiningMark⟩),
   (["noncharactercodepoint", "nchar"], ⟨noncharacter⟩),
   (["otheralphabetic", "oalpha"], ⟨otherAlphabetic⟩),
   (["otherdefaultignorablecodepoint", "odi"], ⟨otherDefaultIgnorable⟩),
   (["othergraphemeextend", "ogrext"], ⟨otherGraphemeExtend⟩),
   (["otheridcontinue", "oidc"], ⟨otherIdContinue⟩), (["otheridstart", "oids"], ⟨otherIdStart⟩),
   (["otherlowercase", "olower"], ⟨otherLowercase⟩), (["othermath", "omath"], ⟨otherMath⟩),
   (["otheruppercase", "oupper"], ⟨otherUppercase⟩), (["patternsyntax", "patsyn"], ⟨patternSyntax⟩),
   (["patternwhitespace", "patws"], ⟨patternWhiteSpace⟩),
   (["prependedconcatenationmark", "pcm"], ⟨prependedMark⟩),
   (["quotationmark", "qmark"], ⟨quotationMark⟩), (["radical"], ⟨radical⟩),
   (["regionalindicator", "ri"], ⟨regionalIndicator⟩),
   (["sentenceterminal", "sterm"], ⟨sentenceTerminal⟩), (["softdotted", "sd"], ⟨softDotted⟩),
   (["terminalpunctuation", "term"], ⟨terminalPunctuation⟩),
   (["unifiedideograph", "uideo"], ⟨unifiedIdeograph⟩),
   (["variationselector", "vs"], ⟨variationSelector⟩),
   (["xidcontinue", "xidc"], idContinue.diff ⟨notClosedContinue⟩),
   (["xidstart", "xids"], idStart.diff ⟨notClosedStart⟩)]

/-!
## Letters and numbers in names

The names of groups and of variables are made of letters and numbers as of Unicode 17, while
classes in patterns follow Unicode 16. So the characters that came in between are listed here.
-/

/-- The letters that are new in Unicode 17. -/
def newLetters : Ranges := Ranges.decode
  ["88F C5C CDC A7CE-A7CF A7D2 A7D4 A7F1 10940-10959 10EC5-10EC7 10EFA-10EFB 11B60-11B67",
   "11DB0-11DDB 16EA0-16EB8 16EBB-16ED3 16FF2-16FF6 187F8-187FF 18D09-18D1E 18D80-18DF2",
   "1E6C0-1E6DE 1E6E0-1E6F5 1E6FE-1E6FF 2B73A-2B73F 2CEA2-2CEAD 323B0-33479"]

/-- The numbers that are new in Unicode 17. -/
def newNumbers : Ranges := Ranges.decode ["11DE0-11DE9 16FF4-16FF6"]

/-- The letters of names. -/
def nameLetters : Charset := alphabetic.union ⟨newLetters⟩

/-- The numbers of names. -/
def nameNumbers : Charset := numbers.union ⟨newNumbers⟩

end Charset

/-- Whether a character is a letter of names. -/
def isLetter (c : Char) : Bool :=
  Charset.nameLetters.contains c

/-- Whether a character is a letter or a number of names. -/
def isLetterOrNumber (c : Char) : Bool :=
  isLetter c || Charset.nameNumbers.contains c

end DslOutline
