import DslOutline.Charset.AgeTable
import DslOutline.Charset.Property
import DslOutline.Charset.ScriptTable

/-!
# Classes and names of sets

A pattern may name a set of characters by script, by age, by a class for finding boundaries, or by a
property. Here are the classes, and the names of all of these sets.
-/

namespace DslOutline.Charset

/-!
## Classes for finding boundaries in a text

The characters are classified in three ways, depending on whether boundaries between graphemes,
words or sentences are looked for. The classes follow from other properties and a few exceptions.
-/

/-- The characters of a script, which is given by one of its names. -/
def script? (name : String) : Option Charset :=
  (scripts.find? fun s => s.names.contains name).map fun s => ⟨s.ranges⟩

/-- The characters used in a script. Those that belong to no single script are counted with the
scripts that use them, if these are known. -/
def scriptExtension? (name : String) : Option Charset :=
  (scripts.find? fun s => s.names.contains name).map fun s =>
    if s.names.contains "common" || s.names.contains "inherited" then
      (Charset.mk s.ranges).diff (ofTables (scripts.map Script.borrowed))
    else (Charset.mk s.ranges).union ⟨s.borrowed⟩

/-- The line feed. -/
def lineFeed : Charset := single '\n'

/-- The carriage return. -/
def carriageReturn : Charset := single '\r'

/-- The joiner that keeps letters together. -/
def zeroWidthJoiner : Charset := single '\u200D'

/-- Letters of flags. -/
def flagLetters : Charset := ⟨regionalIndicator⟩

/-! ### Graphemes -/

/-- Hangul syllables without a final consonant: every twenty-eighth one. -/
def openSyllables : Charset :=
  ⟨(List.range 399).map fun i => (0xAC00 + 28 * i, 0xAC00 + 28 * i)⟩

/-- Marks with a width of their own that belong to the grapheme before them. -/
def graphemeSpacing : Charset :=
  ((Charset.diff ⟨categoryMc⟩ graphemeExtend).union ⟨[(0xE33, 0xE33), (0xEB3, 0xEB3)]⟩).diff
    ⟨[(0x102B, 0x102C), (0x1038, 0x1038), (0x1062, 0x1064), (0x1067, 0x106D), (0x1083, 0x1083),
      (0x1087, 0x108C), (0x108F, 0x108F), (0x109A, 0x109C), (0x1A61, 0x1A61), (0x1A63, 0x1A64),
      (0xAA7B, 0xAA7B), (0xAA7D, 0xAA7D), (0x11720, 0x11721)]⟩

/-- Controls, which are graphemes of their own. -/
def graphemeControl : Charset :=
  (unions
    [ofTables [categoryZl, categoryZp, categoryCc, categoryCf],
      assigned.compl.inter defaultIgnorable]).diff
    (unions
      [lineFeed, carriageReturn, ⟨joinControl⟩, ⟨prependedMark⟩, graphemeExtend])

/-- Characters that belong to the grapheme after them, besides signs that enclose a number. -/
def prependedLetters : Charset :=
  ⟨[(0xD4E, 0xD4E), (0x111C2, 0x111C3), (0x113D1, 0x113D1), (0x1193F, 0x1193F), (0x11941, 0x11941),
    (0x11A3A, 0x11A3A), (0x11A84, 0x11A89), (0x11D46, 0x11D46), (0x11F02, 0x11F02)]⟩

/-- The classes for boundaries between graphemes. -/
def graphemeClasses : Directory :=
  [(["cr"], carriageReturn), (["lf"], lineFeed), (["control", "cn"], graphemeControl),
   (["extend", "ex"], ofTables [graphemeExtend.ranges, emojiModifier]),
   (["zwj"], zeroWidthJoiner), (["regionalindicator", "ri"], flagLetters),
   (["prepend", "pp"], prependedLetters.union ⟨prependedMark⟩),
   (["spacingmark", "sm"], graphemeSpacing), (["l"], ⟨[(0x1100, 0x115F), (0xA960, 0xA97C)]⟩),
   (["v"], ⟨[(0x1160, 0x11A7), (0xD7B0, 0xD7C6), (0x16D63, 0x16D63), (0x16D67, 0x16D6A)]⟩),
   (["t"], ⟨[(0x11A8, 0x11FF), (0xD7CB, 0xD7FB)]⟩), (["lv"], openSyllables),
   (["lvt"], Charset.diff ⟨[(0xAC00, 0xD7A3)]⟩ openSyllables)]

/-! ### Words -/

/-- Digits and signs that enclose a number, as far as they do not hide in East Asian text. -/
def numeric : Charset :=
  ((ofTables [categoryNd, prependedMark]).diff ⟨[(0x70F, 0x70F), (0xFF10, 0xFF19)]⟩).union
    ⟨[(0x66B, 0x66C)]⟩

/-- Characters that extend a word. -/
def wordExtend : Charset :=
  ofTables [graphemeExtend.ranges, categoryMc, emojiModifier]

/-- Katakana and the marks that go with it. -/
def wordKatakana : Charset :=
  ((script? "katakana").getD empty).union
    ⟨[(0x3031, 0x3035), (0x309B, 0x309C), (0x30A0, 0x30A0), (0x30FC, 0x30FC), (0xFF70, 0xFF70)]⟩

/-- Letters of the Hebrew script. -/
def hebrewLetters : Charset :=
  ((script? "hebrew").getD empty).inter ⟨categoryLo⟩

/-- Letters of scripts that do not separate words by spaces. -/
def complexContext : Charset :=
  ⟨[(0xE01, 0xE3A), (0xE40, 0xE4E), (0xE81, 0xEBD), (0xEC0, 0xECE), (0xEDC, 0xEDF),
    (0x1000, 0x103F), (0x1050, 0x108F), (0x109A, 0x109F), (0x1780, 0x17D3), (0x17D7, 0x17D7),
    (0x17DC, 0x17DD), (0x1950, 0x1974), (0x1980, 0x19C9), (0x19DA, 0x19DA), (0x19DE, 0x19DF),
    (0x1A20, 0x1A7C), (0x1AA0, 0x1AAD), (0xA9E0, 0xA9EF), (0xA9FA, 0xA9FE), (0xAA60, 0xAAC2),
    (0xAADB, 0xAADF), (0x11700, 0x1172B), (0x1173A, 0x1173B), (0x1173F, 0x11746)]⟩

/-- Signs that count as letters of a word. -/
def wordSigns : Charset :=
  ⟨[(0x2C2, 0x2C5), (0x2D2, 0x2D7), (0x2DE, 0x2DF), (0x2E5, 0x2EB), (0x2ED, 0x2ED), (0x2EF, 0x2FF),
    (0x55A, 0x55C), (0x55E, 0x55E), (0x58A, 0x58A), (0x5F3, 0x5F3), (0x70F, 0x70F),
    (0xA708, 0xA716), (0xA720, 0xA721), (0xA789, 0xA78A), (0xAB5B, 0xAB5B)]⟩

/-- Letters of words that spaces separate. -/
def wordLetters : Charset :=
  (alphabetic.union wordSigns).diff
    (unions
      [⟨ideographic⟩, wordKatakana, complexContext, (script? "hiragana").getD empty, wordExtend,
        hebrewLetters])

/-- Format characters inside a word. -/
def wordFormat : Charset :=
  Charset.diff ⟨categoryCf⟩
    (unions [⟨[(0x70F, 0x70F), (0x200B, 0x200D)]⟩, wordExtend, numeric])

/-- The classes for boundaries between words. -/
def wordClasses : Directory :=
  [(["cr"], carriageReturn), (["lf"], lineFeed),
   (["newline", "nl"], ⟨[(0x0B, 0x0C), (0x85, 0x85), (0x2028, 0x2029)]⟩),
   (["extend"], wordExtend), (["zwj"], zeroWidthJoiner), (["format", "fo"], wordFormat),
   (["regionalindicator", "ri"], flagLetters), (["katakana", "ka"], wordKatakana),
   (["hebrewletter", "hl"], hebrewLetters), (["aletter", "le"], wordLetters),
   (["singlequote", "sq"], single '\''), (["doublequote", "dq"], single '"'),
   (["midnumlet", "mb"],
    ⟨[(0x2E, 0x2E), (0x2018, 0x2019), (0x2024, 0x2024), (0xFE52, 0xFE52), (0xFF07, 0xFF07),
      (0xFF0E, 0xFF0E)]⟩),
   (["midletter", "ml"],
    ⟨[(0x3A, 0x3A), (0xB7, 0xB7), (0x387, 0x387), (0x55F, 0x55F), (0x5F4, 0x5F4), (0x2027, 0x2027),
      (0xFE13, 0xFE13), (0xFE55, 0xFE55), (0xFF1A, 0xFF1A)]⟩),
   (["midnum", "mn"],
    ⟨[(0x2C, 0x2C), (0x3B, 0x3B), (0x37E, 0x37E), (0x589, 0x589), (0x60C, 0x60D), (0x66C, 0x66C),
      (0x7F8, 0x7F8), (0x2044, 0x2044), (0xFE10, 0xFE10), (0xFE14, 0xFE14), (0xFE50, 0xFE50),
      (0xFE54, 0xFE54), (0xFF0C, 0xFF0C), (0xFF1B, 0xFF1B)]⟩),
   (["numeric", "nu"], (numeric.diff ⟨[(0x66C, 0x66C)]⟩).union ⟨[(0xFF10, 0xFF19)]⟩),
   (["extendnumlet", "ex"], ofTables [categoryPc, [(0x202F, 0x202F)]]),
   (["wsegspace"], Charset.diff ⟨categoryZs⟩ ⟨[(0xA0, 0xA0), (0x2007, 0x2007), (0x202F, 0x202F)]⟩)]

/-! ### Sentences -/

/-- Characters that extend what is before them in a sentence. -/
def sentenceExtend : Charset :=
  (ofTables [graphemeExtend.ranges, categoryMc]).union zeroWidthJoiner

/-- Lowercase letters in a sentence. The letters of Georgian do not tell where one starts. -/
def sentenceLower : Charset :=
  lowercase.diff (graphemeExtend.union ⟨[(0x10D0, 0x10FA), (0x10FD, 0x10FF)]⟩)

/-- Letters that may start a sentence. -/
def sentenceUpper : Charset :=
  (uppercase.union ⟨categoryLt⟩).diff ⟨[(0x1C90, 0x1CBA), (0x1CBD, 0x1CBF)]⟩

/-- Full stops, after which a sentence may go on. -/
def fullStops : Charset :=
  ⟨[(0x2E, 0x2E), (0x2024, 0x2024), (0xFE52, 0xFE52), (0xFF0E, 0xFF0E)]⟩

/-- Quotation marks of either direction. -/
def ambiguousQuotes : Charset :=
  ⟨[(0x22, 0x22), (0x27, 0x27), (0x275B, 0x2760), (0x2E00, 0x2E01), (0x2E06, 0x2E08),
    (0x2E0B, 0x2E0B), (0x1F676, 0x1F678)]⟩

/-- Brackets and quotation marks. -/
def sentenceClose : Charset :=
  (unions [ofTables [categoryPs, categoryPe, categoryPi, categoryPf], ambiguousQuotes]).diff
    (fullStops.union ⟨sentenceTerminal⟩)

/-- The classes for boundaries between sentences. -/
def sentenceClasses : Directory :=
  [(["cr"], carriageReturn), (["lf"], lineFeed),
   (["sep", "se"], ⟨[(0x85, 0x85), (0x2028, 0x2029)]⟩),
   (["extend", "ex"], sentenceExtend),
   (["format", "fo"],
    Charset.diff ⟨categoryCf⟩ (unions [⟨[(0x200C, 0x200D)]⟩, sentenceExtend, numeric])),
   (["sp"],
    blank.diff ⟨[(0x0A, 0x0A), (0x0D, 0x0D), (0x85, 0x85), (0x2028, 0x2029)]⟩),
   (["lower", "lo"], sentenceLower), (["upper", "up"], sentenceUpper),
   (["oletter", "le"],
    (alphabetic.union ⟨[(0x5F3, 0x5F3)]⟩).diff
      (unions [sentenceLower, sentenceUpper, sentenceExtend])),
   (["numeric", "nu"], numeric.union ⟨[(0xFF10, 0xFF19)]⟩), (["aterm", "at"], fullStops),
   (["sterm", "st"], Charset.diff ⟨sentenceTerminal⟩ fullStops),
   (["scontinue", "sc"],
    ⟨[(0x2C, 0x2D), (0x3A, 0x3B), (0x37E, 0x37E), (0x55D, 0x55D), (0x60C, 0x60D), (0x7F8, 0x7F8),
      (0x1802, 0x1802), (0x1808, 0x1808), (0x2013, 0x2014), (0x3001, 0x3001), (0xFE10, 0xFE11),
      (0xFE13, 0xFE14), (0xFE31, 0xFE32), (0xFE50, 0xFE51), (0xFE54, 0xFE55), (0xFE58, 0xFE58),
      (0xFE63, 0xFE63), (0xFF0C, 0xFF0D), (0xFF1A, 0xFF1B), (0xFF64, 0xFF64)]⟩),
   (["close", "cl"], sentenceClose)]

/-!
## Sets by name

Patterns name character properties by short and long names. Names are compared without regard to
case, spaces, hyphens and underscores, and an `is` that they start with is dropped.
-/

/-- A property name without its separators, in lower case and without an `is` at the start. The name
`isc` is not shortened, since `c` has a meaning of its own. -/
def normalizeName (cs : List Char) : String :=
  let plain (cs : List Char) : List Char :=
    (cs.filter fun c => c.toNat < 0x80 && c != ' ' && c != '-' && c != '_').map Char.toLower
  match cs with
  | i :: s :: rest =>
    if i.toLower = 'i' ∧ s.toLower = 's' then
      if plain rest == ['c'] then "isc" else String.ofList (plain rest)
    else String.ofList (plain cs)
  | _ => String.ofList (plain cs)

/-- The set that a bare property name stands for. -/
def named? (cs : List Char) : Option Charset :=
  let name := normalizeName cs
  binaryProperties.get? name <|> categories.get? name <|> script? name

/-- The characters that were there in a version of Unicode. -/
def aged? (version : String) : Option Charset :=
  let before := ages.takeWhile fun age => !age.1.contains version
  match ages.drop before.length with
  | [] => none
  | age :: _ => some (ofTables (before.map Prod.snd ++ [age.2]))

/-- The set of the characters for which a property has a value. -/
def valued? (property value : List Char) : Option Charset :=
  let value := normalizeName value
  match normalizeName property with
  | "gc" => categories.get? value
  | "generalcategory" => categories.get? value
  | "sc" => script? value
  | "script" => script? value
  | "scx" => scriptExtension? value
  | "scriptextensions" => scriptExtension? value
  | "age" => aged? value
  | "gcb" => graphemeClasses.get? value
  | "graphemeclusterbreak" => graphemeClasses.get? value
  | "wb" => wordClasses.get? value
  | "wordbreak" => wordClasses.get? value
  | "sb" => sentenceClasses.get? value
  | "sentencebreak" => sentenceClasses.get? value
  | _ => none

/-- The bracketed ASCII classes, such as `[:alpha:]`, by name. -/
def asciiClass? (name : List Char) : Option Charset :=
  (asciiClasses.find? fun c => c.1 == String.ofList name).map fun c => ⟨c.2⟩
where
  /-- The classes and their ranges. -/
  asciiClasses : List (String × Ranges) :=
    [("alnum", [(0x30, 0x39), (0x41, 0x5A), (0x61, 0x7A)]), ("alpha", [(0x41, 0x5A), (0x61, 0x7A)]),
     ("ascii", [(0, 0x7F)]), ("blank", [(0x09, 0x09), (0x20, 0x20)]),
     ("cntrl", [(0, 0x1F), (0x7F, 0x7F)]), ("digit", [(0x30, 0x39)]), ("graph", [(0x21, 0x7E)]),
     ("lower", [(0x61, 0x7A)]), ("print", [(0x20, 0x7E)]),
     ("punct", [(0x21, 0x2F), (0x3A, 0x40), (0x5B, 0x60), (0x7B, 0x7E)]),
     ("space", [(0x09, 0x0D), (0x20, 0x20)]), ("upper", [(0x41, 0x5A)]),
     ("word", [(0x30, 0x39), (0x41, 0x5A), (0x5F, 0x5F), (0x61, 0x7A)]),
     ("xdigit", [(0x30, 0x39), (0x41, 0x46), (0x61, 0x66)])]

end DslOutline.Charset
