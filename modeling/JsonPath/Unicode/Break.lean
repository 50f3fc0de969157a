import JsonPath.Unicode.Emoji
import JsonPath.Unicode.Ideograph
import JsonPath.Unicode.Mark
import JsonPath.Unicode.Script
import JsonPath.Unicode.Symbol

/-!
# Where text may be divided

Text is divided between the characters that a reader perceives, between words, and between
sentences. For each of the three a character has one of a few roles; the rules that say what the
roles mean for a division are not needed here.
-/

namespace JsonPath.Unicode

/-- Characters that attach to the one before them, be they marks of their own width or tones of
skin. -/
def attachedRanges : Ranges :=
  .unions [graphemeExtendRanges, Category.spacingMarkRanges, emojiModifierRanges]

/-! ## Perceived characters -/

/-- The role of a character inside of what is perceived as one. -/
inductive GraphemeBreak where
  | carriageReturn
  | lineFeed
  | control
  | extend
  | zeroWidthJoiner
  | regionalIndicator
  | prepend
  | spacingMark
  /-- a leading consonant of hangul -/
  | leading
  /-- a vowel of hangul -/
  | vowel
  /-- a trailing consonant of hangul -/
  | trailing
  /-- a syllable of hangul without a trailing consonant -/
  | openSyllable
  /-- a syllable of hangul with one -/
  | closedSyllable
deriving Repr, DecidableEq

/-- Leading consonants of hangul. -/
def leadingRanges : Ranges := .ofLines
  ["1100-115F A960-A97C"]

/-- Vowels of hangul. -/
def vowelRanges : Ranges := .ofLines
  ["1160-11A7 D7B0-D7C6 16D63 16D67-16D6A"]

/-- Trailing consonants of hangul. -/
def trailingRanges : Ranges := .ofLines
  ["11A8-11FF D7CB-D7FB"]

/-- Letters and marks that belong to the character behind them. -/
def prependedLetterRanges : Ranges := .ofLines
  ["D4E 111C2-111C3 113D1 1193F 11941 11A3A 11A84-11A89 11D46 11F02"]

/-- Marks of their own width that do not belong to the character before them. -/
def looseSpacingMarkRanges : Ranges := .ofLines
  ["102B-102C 1038 1062-1064 1067-106D 1083 1087-108C 108F 109A-109C 1A61 1A63-1A64 AA7B AA7D",
   "11720-11721"]

/-- Letters that belong to the character before them like a mark. -/
def spacingVowelRanges : Ranges := .ofLines
  ["E33 EB3"]

/-- The first syllable of hangul. With each leading consonant and each vowel there are twenty-eight
of them, of which the first has no trailing consonant. -/
def firstSyllable : Nat := 0xAC00

/-- Syllables of hangul without a trailing consonant. -/
def openSyllableRanges : Ranges :=
  .ofCodePoints ((List.range 399).map fun k => firstSyllable + 28 * k)

/-- Syllables of hangul with a trailing consonant. -/
def closedSyllableRanges : Ranges :=
  (List.range 399).map fun k => (firstSyllable + 28 * k + 1, firstSyllable + 28 * k + 27)

namespace GraphemeBreak

/-- All roles. -/
def all : List GraphemeBreak :=
  [carriageReturn, lineFeed, control, extend, zeroWidthJoiner, regionalIndicator, prepend,
   spacingMark, leading, vowel, trailing, openSyllable, closedSyllable]

/-- The loose names of a role. -/
def names : GraphemeBreak → List String
  | carriageReturn => ["cr"]
  | lineFeed => ["lf"]
  | control => ["cn", "control"]
  | extend => ["ex", "extend"]
  | zeroWidthJoiner => ["zwj"]
  | regionalIndicator => ["regionalindicator", "ri"]
  | prepend => ["pp", "prepend"]
  | spacingMark => ["sm", "spacingmark"]
  | leading => ["l"]
  | vowel => ["v"]
  | trailing => ["t"]
  | openSyllable => ["lv"]
  | closedSyllable => ["lvt"]

/-- The characters that have a role. -/
def ranges : GraphemeBreak → Ranges
  | carriageReturn => [(0x0D, 0x0D)]
  | lineFeed => [(0x0A, 0x0A)]
  | control =>
    Ranges.difference
      (.unions [Category.rangesOf [.control, .format, .lineSeparator, .paragraphSeparator],
        Category.unassignedRanges.intersection defaultIgnorableRanges])
      (.unions [[(0x0A, 0x0A), (0x0D, 0x0D), (0x200D, 0x200D)], graphemeExtendRanges,
        prependedMarkRanges])
  | extend => (graphemeExtendRanges.union emojiModifierRanges).difference [(0x200D, 0x200D)]
  | zeroWidthJoiner => [(0x200D, 0x200D)]
  | regionalIndicator => regionalIndicatorRanges
  | prepend => prependedMarkRanges.union prependedLetterRanges
  | spacingMark =>
    (Category.spacingMarkRanges.difference
      (graphemeExtendRanges.union looseSpacingMarkRanges)).union spacingVowelRanges
  | leading => leadingRanges
  | vowel => vowelRanges
  | trailing => trailingRanges
  | openSyllable => openSyllableRanges
  | closedSyllable => closedSyllableRanges

end GraphemeBreak

/-! ## Words -/

/-- The role of a character in a word. -/
inductive WordBreak where
  | carriageReturn
  | lineFeed
  | newline
  | extend
  | zeroWidthJoiner
  | format
  | regionalIndicator
  | katakana
  | hebrewLetter
  | letter
  | singleQuote
  | doubleQuote
  /-- what may stand between letters and between digits -/
  | between
  /-- what may stand between letters -/
  | betweenLetters
  /-- what may stand between digits -/
  | betweenDigits
  | numeric
  /-- a connector such as the underscore -/
  | connector
  | blank
deriving Repr, DecidableEq

/-- Ends of lines other than the line feed and the carriage return. -/
def newlineRanges : Ranges := .ofLines
  ["B-C 85 2028-2029"]

/-- Katakana and the signs that are written among them. -/
def katakanaWordRanges : Ranges := .ofLines
  ["3031-3035 309B-309C 30A0-30FA 30FC-30FF 31F0-31FF 32D0-32FE 3300-3357 FF66-FF9D 1AFF0-1AFF3",
   "1AFF5-1AFFB 1AFFD-1AFFE 1B000 1B120-1B122 1B155 1B164-1B167"]

/-- Letters of scripts that put no blanks between words. -/
def unspacedLetterRanges : Ranges := .ofLines
  ["E01-E30 E32-E33 E40-E46 E81-E82 E84 E86-E8A E8C-EA3 EA5 EA7-EB0 EB2-EB3 EBD EC0-EC4 EC6",
   "EDC-EDF 1000-102A 103F 1050-1055 105A-105D 1061 1065-1066 106E-1070 1075-1081 108E 1780-17B3",
   "17D7 17DC 1950-196D 1970-1974 1980-19AB 19B0-19C9 1A20-1A54 1AA7 A9E0-A9E4 A9E6-A9EF A9FA-A9FE",
   "AA60-AA76 AA7A AA7E-AAAF AAB1 AAB5-AAB6 AAB9-AABD AAC0 AAC2 AADB-AADD 11700-1171A 11740-11746"]

/-- Signs that count as letters of a word. -/
def wordLetterRanges : Ranges := .ofLines
  ["2C2-2C5 2D2-2D7 2DE-2DF 2E5-2EB 2ED 2EF-2FF 55A-55C 55E 58A 5F3 70F A708-A716 A720-A721",
   "A789-A78A AB5B"]

/-- Signs that may stand between letters and between digits. -/
def betweenRanges : Ranges := .ofLines
  ["2E 2018-2019 2024 FE52 FF07 FF0E"]

/-- Signs that may stand between letters. -/
def betweenLettersRanges : Ranges := .ofLines
  ["3A B7 387 55F 5F4 2027 FE13 FE55 FF1A"]

/-- Signs that may stand between digits. -/
def betweenDigitsRanges : Ranges := .ofLines
  ["2C 3B 37E 589 60C-60D 66C 7F8 2044 FE50 FE54 FF0C FF1B"]

/-- Signs that count as digits of a number. -/
def otherNumericRanges : Ranges := .ofLines
  ["600-605 66B 6DD 890-891 8E2 19DA 110BD 110CD"]

/-- Blanks at which words end. -/
def wordBlankRanges : Ranges := .ofLines
  ["20 1680 2000-2006 2008-200A 205F 3000"]

/-- Characters that attach to the one before them, the joiner left out. -/
def wordExtendRanges : Ranges := attachedRanges.difference [(0x200D, 0x200D)]

/-- Letters of the Hebrew script. -/
def hebrewLetterRanges : Ranges :=
  Category.otherLetterRanges.intersection (Script.rangesNamed "hebr")

/-- Letters of words that are set apart by blanks. -/
def spacedLetterRanges : Ranges :=
  (alphabeticRanges.difference
    (.unions [ideographicRanges, katakanaWordRanges, Script.rangesNamed "hira", wordExtendRanges,
      hebrewLetterRanges, unspacedLetterRanges])).union wordLetterRanges

/-- Digits of a number. -/
def numericRanges : Ranges := Category.decimalNumberRanges.union otherNumericRanges

namespace WordBreak

/-- All roles. -/
def all : List WordBreak :=
  [carriageReturn, lineFeed, newline, extend, zeroWidthJoiner, format, regionalIndicator, katakana,
   hebrewLetter, letter, singleQuote, doubleQuote, between, betweenLetters, betweenDigits, numeric,
   connector, blank]

/-- The loose names of a role. -/
def names : WordBreak → List String
  | carriageReturn => ["cr"]
  | lineFeed => ["lf"]
  | newline => ["newline", "nl"]
  | extend => ["extend"]
  | zeroWidthJoiner => ["zwj"]
  | format => ["fo", "format"]
  | regionalIndicator => ["regionalindicator", "ri"]
  | katakana => ["ka", "katakana"]
  | hebrewLetter => ["hebrewletter", "hl"]
  | letter => ["aletter", "le"]
  | singleQuote => ["singlequote", "sq"]
  | doubleQuote => ["doublequote", "dq"]
  | between => ["mb", "midnumlet"]
  | betweenLetters => ["midletter", "ml"]
  | betweenDigits => ["midnum", "mn"]
  | numeric => ["nu", "numeric"]
  | connector => ["ex", "extendnumlet"]
  | blank => ["wsegspace"]

/-- The characters that have a role. -/
def ranges : WordBreak → Ranges
  | carriageReturn => [(0x0D, 0x0D)]
  | lineFeed => [(0x0A, 0x0A)]
  | newline => newlineRanges
  | extend => wordExtendRanges
  | zeroWidthJoiner => [(0x200D, 0x200D)]
  | format =>
    Category.formatRanges.difference
      (.unions [[(0x200B, 0x200B), (0x200D, 0x200D)], wordExtendRanges, prependedMarkRanges])
  | regionalIndicator => regionalIndicatorRanges
  | katakana => katakanaWordRanges
  | hebrewLetter => hebrewLetterRanges
  | letter => spacedLetterRanges
  | singleQuote => [(0x27, 0x27)]
  | doubleQuote => [(0x22, 0x22)]
  | between => betweenRanges
  | betweenLetters => betweenLettersRanges
  | betweenDigits => betweenDigitsRanges
  | numeric => numericRanges
  | connector => Category.connectorPunctuationRanges.union [(0x202F, 0x202F)]
  | blank => wordBlankRanges

end WordBreak

/-! ## Sentences -/

/-- The role of a character in a sentence. -/
inductive SentenceBreak where
  | carriageReturn
  | lineFeed
  | separator
  | extend
  | format
  | blank
  | lower
  | upper
  | letter
  | numeric
  /-- a full stop, which may also be part of a number or an abbreviation -/
  | fullStop
  /-- what ends a sentence without doubt -/
  | terminal
  /-- what goes on with a sentence -/
  | continuation
  /-- brackets and quotation marks -/
  | close
deriving Repr, DecidableEq

/-- Ends of lines and paragraphs other than the line feed and the carriage return. -/
def lineBoundaryRanges : Ranges := .ofLines
  ["85 2028-2029"]

/-- Blanks between sentences. -/
def sentenceBlankRanges : Ranges := .ofLines
  ["9 B-C 20 A0 1680 2000-200A 202F 205F 3000"]

/-- Full stops. -/
def fullStopRanges : Ranges := .ofLines
  ["2E 2024 FE52 FF0E"]

/-- Signs behind which a sentence goes on. -/
def continuationRanges : Ranges := .ofLines
  ["2C-2D 3A-3B 37E 55D 60C-60D 7F8 1802 1808 2013-2014 3001 FE10-FE11 FE13-FE14 FE31-FE32",
   "FE50-FE51 FE54-FE55 FE58 FE63 FF0C-FF0D FF1A-FF1B FF64"]

/-- Quotation marks and brackets among the ornaments and the signs of editors. -/
def ornamentalQuoteRanges : Ranges := .ofLines
  ["275B-2760 2E00-2E01 2E06-2E08 2E0B 1F676-1F678"]

/-- Wide quotation marks, which close no sentence. -/
def wideQuoteRanges : Ranges := .ofLines
  ["FF02 FF07"]

/-- Georgian letters as they are usually written. -/
def plainGeorgianRanges : Ranges := .ofLines
  ["10D0-10FA 10FD-10FF"]

/-- Georgian letters of headlines. -/
def capitalGeorgianRanges : Ranges := .ofLines
  ["1C90-1CBA 1CBD-1CBF"]

/-- Characters that attach to the one before them in a sentence. -/
def sentenceExtendRanges : Ranges :=
  .unions [graphemeExtendRanges, Category.spacingMarkRanges, [(0x200D, 0x200D)]]

/-- Small letters, with which a sentence goes on. In Georgian, which has capital letters in
headlines only, no letter is one. -/
def sentenceLowerRanges : Ranges :=
  lowercaseRanges.difference (graphemeExtendRanges.union plainGeorgianRanges)

/-- Capital letters, with which a sentence may start. -/
def sentenceUpperRanges : Ranges :=
  (uppercaseRanges.union Category.titlecaseLetterRanges).difference capitalGeorgianRanges

namespace SentenceBreak

/-- All roles. -/
def all : List SentenceBreak :=
  [carriageReturn, lineFeed, separator, extend, format, blank, lower, upper, letter, numeric,
   fullStop, terminal, continuation, close]

/-- The loose names of a role. -/
def names : SentenceBreak → List String
  | carriageReturn => ["cr"]
  | lineFeed => ["lf"]
  | separator => ["se", "sep"]
  | extend => ["ex", "extend"]
  | format => ["fo", "format"]
  | blank => ["sp"]
  | lower => ["lo", "lower"]
  | upper => ["up", "upper"]
  | letter => ["le", "oletter"]
  | numeric => ["nu", "numeric"]
  | fullStop => ["at", "aterm"]
  | terminal => ["st", "sterm"]
  | continuation => ["sc", "scontinue"]
  | close => ["cl", "close"]

/-- The characters that have a role. -/
def ranges : SentenceBreak → Ranges
  | carriageReturn => [(0x0D, 0x0D)]
  | lineFeed => [(0x0A, 0x0A)]
  | separator => lineBoundaryRanges
  | extend => sentenceExtendRanges
  | format =>
    Category.formatRanges.difference
      (sentenceExtendRanges.union (prependedMarkRanges.difference [(0x070F, 0x070F)]))
  | blank => sentenceBlankRanges
  | lower => sentenceLowerRanges
  | upper => sentenceUpperRanges
  | letter =>
    (alphabeticRanges.union [(0x05F3, 0x05F3)]).difference
      (.unions [sentenceLowerRanges, sentenceUpperRanges, sentenceExtendRanges])
  | numeric => numericRanges.union [(0x066C, 0x066C)]
  | fullStop => fullStopRanges
  | terminal => sentenceTerminalRanges.difference fullStopRanges
  | continuation => continuationRanges
  | close =>
    .unions [Category.rangesOf
        [.openPunctuation, .closePunctuation, .initialPunctuation, .finalPunctuation],
      quotationMarkRanges.difference wideQuoteRanges, ornamentalQuoteRanges]

end SentenceBreak

end JsonPath.Unicode
