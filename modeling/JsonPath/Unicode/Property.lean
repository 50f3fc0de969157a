import JsonPath.Unicode.Casing
import JsonPath.Unicode.Identifier

/-!
# Properties with two values

Every property of characters that either holds or does not, with the names it goes by. All names are
in a loose form: lower case, without blanks, hyphens and underscores.
-/

namespace JsonPath.Unicode

/-- A property that a character has or has not. -/
inductive Property where
  | latinHexDigit
  | alphabetic
  | bidiControl
  | bidiMirrored
  | caseIgnorable
  | cased
  | changesWhenFolded
  | changesWhenMapped
  | changesWhenLowercased
  | changesWhenTitlecased
  | changesWhenUppercased
  | dash
  | defaultIgnorable
  | deprecated
  | diacritic
  | emoji
  | emojiComponent
  | emojiModifier
  | emojiModifierBase
  | emojiPresentation
  | extendedPictographic
  | extender
  | graphemeBase
  | graphemeExtend
  | graphemeLink
  | hexDigit
  | hyphen
  | binaryDescription
  | trinaryDescription
  | unaryDescription
  | idCompatMathContinue
  | idCompatMathStart
  | idContinue
  | idStart
  | ideographic
  | joinControl
  | logicalOrderException
  | lowercase
  | math
  | modifierCombiningMark
  | noncharacter
  | otherAlphabetic
  | otherDefaultIgnorable
  | otherGraphemeExtend
  | otherIdContinue
  | otherIdStart
  | otherLowercase
  | otherMath
  | otherUppercase
  | patternSyntax
  | patternWhiteSpace
  | prependedMark
  | quotationMark
  | radical
  | regionalIndicator
  | sentenceTerminal
  | softDotted
  | terminalPunctuation
  | unifiedIdeograph
  | uppercase
  | variationSelector
  | whiteSpace
  | closedIdContinue
  | closedIdStart
deriving Repr, DecidableEq

namespace Property

/-- All properties. -/
def all : List Property :=
  [latinHexDigit, alphabetic, bidiControl, bidiMirrored, caseIgnorable, cased, changesWhenFolded,
   changesWhenMapped, changesWhenLowercased, changesWhenTitlecased, changesWhenUppercased, dash,
   defaultIgnorable, deprecated, diacritic, emoji, emojiComponent, emojiModifier, emojiModifierBase,
   emojiPresentation, extendedPictographic, extender, graphemeBase, graphemeExtend, graphemeLink,
   hexDigit, hyphen, binaryDescription, trinaryDescription, unaryDescription, idCompatMathContinue,
   idCompatMathStart, idContinue, idStart, ideographic, joinControl, logicalOrderException,
   lowercase, math, modifierCombiningMark, noncharacter, otherAlphabetic, otherDefaultIgnorable,
   otherGraphemeExtend, otherIdContinue, otherIdStart, otherLowercase, otherMath, otherUppercase,
   patternSyntax, patternWhiteSpace, prependedMark, quotationMark, radical, regionalIndicator,
   sentenceTerminal, softDotted, terminalPunctuation, unifiedIdeograph, uppercase,
   variationSelector, whiteSpace, closedIdContinue, closedIdStart]

/-- The loose names of a property. -/
def names : Property → List String
  | latinHexDigit => ["ahex", "asciihexdigit"]
  | alphabetic => ["alpha", "alphabetic"]
  | bidiControl => ["bidic", "bidicontrol"]
  | bidiMirrored => ["bidim", "bidimirrored"]
  | caseIgnorable => ["caseignorable", "ci"]
  | cased => ["cased"]
  | changesWhenFolded => ["changeswhencasefolded", "cwcf"]
  | changesWhenMapped => ["changeswhencasemapped", "cwcm"]
  | changesWhenLowercased => ["changeswhenlowercased", "cwl"]
  | changesWhenTitlecased => ["changeswhentitlecased", "cwt"]
  | changesWhenUppercased => ["changeswhenuppercased", "cwu"]
  | dash => ["dash"]
  | defaultIgnorable => ["defaultignorablecodepoint", "di"]
  | deprecated => ["dep", "deprecated"]
  | diacritic => ["dia", "diacritic"]
  | emoji => ["emoji"]
  | emojiComponent => ["ecomp", "emojicomponent"]
  | emojiModifier => ["emod", "emojimodifier"]
  | emojiModifierBase => ["ebase", "emojimodifierbase"]
  | emojiPresentation => ["emojipresentation", "epres"]
  | extendedPictographic => ["extendedpictographic", "extpict"]
  | extender => ["ext", "extender"]
  | graphemeBase => ["graphemebase", "grbase"]
  | graphemeExtend => ["graphemeextend", "grext"]
  | graphemeLink => ["graphemelink", "grlink"]
  | hexDigit => ["hex", "hexdigit"]
  | hyphen => ["hyphen"]
  | binaryDescription => ["idsb", "idsbinaryoperator"]
  | trinaryDescription => ["idst", "idstrinaryoperator"]
  | unaryDescription => ["idsu", "idsunaryoperator"]
  | idCompatMathContinue => ["idcompatmathcontinue"]
  | idCompatMathStart => ["idcompatmathstart"]
  | idContinue => ["idc", "idcontinue"]
  | idStart => ["ids", "idstart"]
  | ideographic => ["ideo", "ideographic"]
  | joinControl => ["joinc", "joincontrol"]
  | logicalOrderException => ["loe", "logicalorderexception"]
  | lowercase => ["lower", "lowercase"]
  | math => ["math"]
  | modifierCombiningMark => ["mcm", "modifiercombiningmark"]
  | noncharacter => ["nchar", "noncharactercodepoint"]
  | otherAlphabetic => ["oalpha", "otheralphabetic"]
  | otherDefaultIgnorable => ["odi", "otherdefaultignorablecodepoint"]
  | otherGraphemeExtend => ["ogrext", "othergraphemeextend"]
  | otherIdContinue => ["oidc", "otheridcontinue"]
  | otherIdStart => ["oids", "otheridstart"]
  | otherLowercase => ["olower", "otherlowercase"]
  | otherMath => ["omath", "othermath"]
  | otherUppercase => ["otheruppercase", "oupper"]
  | patternSyntax => ["patsyn", "patternsyntax"]
  | patternWhiteSpace => ["patternwhitespace", "patws"]
  | prependedMark => ["pcm", "prependedconcatenationmark"]
  | quotationMark => ["qmark", "quotationmark"]
  | radical => ["radical"]
  | regionalIndicator => ["regionalindicator", "ri"]
  | sentenceTerminal => ["sentenceterminal", "sterm"]
  | softDotted => ["sd", "softdotted"]
  | terminalPunctuation => ["term", "terminalpunctuation"]
  | unifiedIdeograph => ["uideo", "unifiedideograph"]
  | uppercase => ["upper", "uppercase"]
  | variationSelector => ["variationselector", "vs"]
  | whiteSpace => ["space", "whitespace", "wspace"]
  | closedIdContinue => ["xidc", "xidcontinue"]
  | closedIdStart => ["xids", "xidstart"]

/-- The property of a loose name. -/
def ofName? (name : String) : Option Property := all.find? fun p => p.names.contains name

/-- The characters that have the property. -/
def ranges : Property → Ranges
  | latinHexDigit => hexDigitRanges.intersection [(0, 0x7F)]
  | alphabetic => alphabeticRanges
  | bidiControl => bidiControlRanges
  | bidiMirrored => bidiMirroredRanges
  | caseIgnorable => caseIgnorableRanges
  | cased => casedRanges
  | changesWhenFolded => changesInFoldingRanges
  | changesWhenMapped => changesInMappingRanges
  | changesWhenLowercased => changesInLowercaseRanges
  | changesWhenTitlecased => changesInTitlecaseRanges
  | changesWhenUppercased => changesInUppercaseRanges
  | dash => dashRanges
  | defaultIgnorable => defaultIgnorableRanges
  | deprecated => deprecatedRanges
  | diacritic => diacriticRanges
  | emoji => emojiRanges
  | emojiComponent => emojiComponentRanges
  | emojiModifier => emojiModifierRanges
  | emojiModifierBase => emojiModifierBaseRanges
  | emojiPresentation => emojiPresentationRanges
  | extendedPictographic => extendedPictographicRanges
  | extender => extenderRanges
  | graphemeBase => graphemeBaseRanges
  | graphemeExtend => graphemeExtendRanges
  | graphemeLink => graphemeLinkRanges
  | hexDigit => hexDigitRanges
  | hyphen => hyphenRanges
  | binaryDescription => binaryDescriptionRanges
  | trinaryDescription => trinaryDescriptionRanges
  | unaryDescription => unaryDescriptionRanges
  | idCompatMathContinue => idCompatMathContinueRanges
  | idCompatMathStart => idCompatMathStartRanges
  | idContinue => idContinueRanges
  | idStart => idStartRanges
  | ideographic => ideographicRanges
  | joinControl => joinControlRanges
  | logicalOrderException => logicalOrderExceptionRanges
  | lowercase => lowercaseRanges
  | math => mathRanges
  | modifierCombiningMark => modifierCombiningMarkRanges
  | noncharacter => noncharacterRanges
  | otherAlphabetic => otherAlphabeticRanges
  | otherDefaultIgnorable => otherDefaultIgnorableRanges
  | otherGraphemeExtend => otherGraphemeExtendRanges
  | otherIdContinue => otherIdContinueRanges
  | otherIdStart => otherIdStartRanges
  | otherLowercase => otherLowercaseRanges
  | otherMath => otherMathRanges
  | otherUppercase => otherUppercaseRanges
  | patternSyntax => patternSyntaxRanges
  | patternWhiteSpace => patternWhiteSpaceRanges
  | prependedMark => prependedMarkRanges
  | quotationMark => quotationMarkRanges
  | radical => radicalRanges
  | regionalIndicator => regionalIndicatorRanges
  | sentenceTerminal => sentenceTerminalRanges
  | softDotted => softDottedRanges
  | terminalPunctuation => terminalPunctuationRanges
  | unifiedIdeograph => unifiedIdeographRanges
  | uppercase => uppercaseRanges
  | variationSelector => variationSelectorRanges
  | whiteSpace => whiteSpaceRanges
  | closedIdContinue => closedIdContinueRanges
  | closedIdStart => closedIdStartRanges

end Property

end JsonPath.Unicode
