import JsonPath.Unicode.Mark

/-!
# The latest characters

The tables of this library are those of Unicode 16.0, to which regular expressions keep. Whether a
character can be shown as it is, and whether a name can be made of it, is decided by Unicode 17.0,
which gave a meaning to more code points and moved one letter to another category. This module holds
what changed.
-/

namespace JsonPath.Unicode

/-! ## Tables -/

/-- The categories that code points have changed to, and the ranges of these code points. -/
def movedCategories : List (Category × List String) :=
  [(.uppercaseLetter,
    ["A7CE A7D2 A7D4 16EA0-16EB8"]),
   (.lowercaseLetter,
    ["A7CF 16EBB-16ED3"]),
   (.modifierLetter,
    ["A7F1 10EC5 11DD9 16FF2-16FF3 1E6FF"]),
   (.otherLetter,
    ["295 88F C5C CDC 10940-10959 10EC6-10EC7 11DB0-11DD8 11DDA-11DDB 187F8-187FF 18D09-18D1E",
     "18D80-18DF2 1E6C0-1E6DE 1E6E0-1E6E2 1E6E4-1E6E5 1E6E7-1E6ED 1E6F0-1E6F4 1E6FE 2B73A-2B73F",
     "2CEA2-2CEAD 323B0-33479"]),
   (.nonspacingMark,
    ["1ACF-1ADD 1AE0-1AEB 10EFA-10EFB 11B60 11B62-11B64 11B66 1E6E3 1E6E6 1E6EE-1E6EF 1E6F5"]),
   (.spacingMark,
    ["11B61 11B65 11B67"]),
   (.decimalNumber,
    ["11DE0-11DE9"]),
   (.letterNumber,
    ["16FF4-16FF6"]),
   (.otherPunctuation,
    ["10ED0"]),
   (.mathSymbol,
    ["1CEF0 1F8D0-1F8D8"]),
   (.currencySymbol,
    ["20C1"]),
   (.otherSymbol,
    ["2B96 FBC3-FBD2 FD90-FD91 FDC8-FDCE 10ED1-10ED8 1CCFA-1CCFC 1CEBA-1CED0 1CEE0-1CEEF 1F6D8",
     "1F777-1F77A 1FA54-1FA57 1FA8A 1FA8E 1FAC8 1FACD 1FAEA 1FAEF 1FBFA"])]

/-- The changed categories with their ranges. -/
def movedRanges : List (Category × Ranges) := movedCategories.map fun m => (m.1, .ofLines m.2)

/-- New alphabetic characters that are neither letters nor letter numbers. -/
def newOtherAlphabeticRanges : Ranges := .ofLines
  ["10EFA-10EFB 11B60-11B67 1E6E3 1E6E6 1E6EE-1E6EF 1E6F5"]

/-! ## Sets -/

namespace Category

/-- The category that a character has at last. -/
def latest (c : Char) : Category :=
  match movedRanges.find? fun m => m.2.contains c.toNat with
  | some m => m.1
  | none => ofChar c

/-- Separators, control and format characters, private use and unassigned code points: nothing of
it can be seen. -/
def isInvisible (c : Category) : Bool :=
  c matches .spaceSeparator | .lineSeparator | .paragraphSeparator | .control | .format
    | .surrogate | .privateUse | .unassigned

end Category

/-- Whether the character can be shown as it is: it is visible or the blank, and it does not attach
to the character before it. -/
def isShowable (c : Char) : Bool :=
  let k := Category.latest c
  (c == ' ' || !k.isInvisible) && !(k matches .nonspacingMark | .enclosingMark)
    && !otherGraphemeExtendRanges.contains c.toNat

/-- Whether the character is a letter in the wide sense. -/
def isNameLetter (c : Char) : Bool :=
  let k := Category.latest c
  Category.letters.contains k || k == .letterNumber || otherAlphabeticRanges.contains c.toNat
    || newOtherAlphabeticRanges.contains c.toNat

/-- Whether the character is a number of any kind. -/
def isNameNumber (c : Char) : Bool := Category.numbers.contains (Category.latest c)

end JsonPath.Unicode
