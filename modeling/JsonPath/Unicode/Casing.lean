import JsonPath.Unicode.Break

/-!
# Casing

Characters that have a case, those that are passed over when it is asked for, and those that another
case turns into something else. A few capital and small letters stand alone in their case.
-/

namespace JsonPath.Unicode

/-! ## Tables -/

/-- Capital letters that have no small form. -/
def loneCapitalRanges : Ranges := .ofLines
  ["3D2-3D4 2102 2107 210B-210D 2110-2112 2115 2119-211D 2124 2128 212C-212D 2130-2131 2133",
   "213E-213F 2145 1D400-1D419 1D434-1D44D 1D468-1D481 1D49C 1D49E-1D49F 1D4A2 1D4A5-1D4A6",
   "1D4A9-1D4AC 1D4AE-1D4B5 1D4D0-1D4E9 1D504-1D505 1D507-1D50A 1D50D-1D514 1D516-1D51C",
   "1D538-1D539 1D53B-1D53E 1D540-1D544 1D546 1D54A-1D550 1D56C-1D585 1D5A0-1D5B9 1D5D4-1D5ED",
   "1D608-1D621 1D63C-1D655 1D670-1D689 1D6A8-1D6C0 1D6E2-1D6FA 1D71C-1D734 1D756-1D76E",
   "1D790-1D7A8 1D7CA 1F130-1F149 1F150-1F169 1F170-1F189"]

/-- Small letters that have no capital form. -/
def loneSmallRanges : Ranges := .ofLines
  ["AA BA 138 18D 1AA-1AB 1BA 1BE 221 234-239 255 258 25A 25D-25F 262 267 26D-26E 270 273-274",
   "276-27C 27E-27F 281 284-286 28D-291 293 295-29C 29F-2B8 2C0-2C1 2E0-2E4 37A 3FC 560 588 10FC",
   "1D00-1D78 1D7A-1D7C 1D7E-1D8D 1D8F-1DBF 1E9C-1E9D 1E9F 2071 207F 2090-209C 210A 210E-210F 2113",
   "212F 2134 2139 213C-213D 2146-2149 2C71 2C74 2C77-2C7D 2CE4 A69C-A69D A730-A731 A770-A778 A78E",
   "A795 A7AF A7D3 A7D5 A7F2-A7F4 A7F8-A7FA AB30-AB52 AB54-AB5A AB5C-AB69 10780 10783-10785",
   "10787-107B0 107B2-107BA 1D41A-1D433 1D44E-1D454 1D456-1D467 1D482-1D49B 1D4B6-1D4B9 1D4BB",
   "1D4BD-1D4C3 1D4C5-1D4CF 1D4EA-1D503 1D51E-1D537 1D552-1D56B 1D586-1D59F 1D5BA-1D5D3",
   "1D5EE-1D607 1D622-1D63B 1D656-1D66F 1D68A-1D6A5 1D6C2-1D6DA 1D6DC-1D6E1 1D6FC-1D714",
   "1D716-1D71B 1D736-1D74E 1D750-1D755 1D770-1D788 1D78A-1D78F 1D7AA-1D7C2 1D7C4-1D7C9 1D7CB",
   "1DF00-1DF09 1DF0B-1DF1E 1DF25-1DF2A 1E030-1E06D"]

/-- Characters that are their own form at the start of a word although they have capital forms. -/
def titleFormRanges : Ranges := .ofLines
  ["1C5 1C8 1CB 1F2 10D0-10FA 10FD-10FF 1F88-1F8F 1F98-1F9F 1FA8-1FAF 1FBC 1FCC 1FFC"]

/-- Capital letters that stand for two, of which only the first is one at the start of a word. -/
def capitalPairRanges : Ranges := .ofLines
  ["1C4 1C7 1CA 1F1"]

/-- Small letters that folding replaces by others. -/
def foldedSmallRanges : Ranges := .ofLines
  ["B5 DF 149 17F 345 3C2 3D0-3D1 3D5-3D6 3F0-3F1 3F5 587 13F8-13FD 1C80-1C88 1E9A-1E9B 1F80-1F87",
   "1F90-1F97 1FA0-1FA7 1FB2-1FB4 1FB7 1FC2-1FC4 1FC7 1FF2-1FF4 1FF7 AB70-ABBF FB00-FB06 FB13-FB17"]

/-- Capital letters that folding leaves as they are. -/
def foldTargetRanges : Ranges := .ofLines
  ["13A0-13F5"]

/-! ## Sets -/

/-- Characters that have a case. -/
def casedRanges : Ranges :=
  .unions [lowercaseRanges, uppercaseRanges, Category.titlecaseLetterRanges]

/-- Characters that are passed over when the case of their neighbours is asked for. -/
def caseIgnorableRanges : Ranges :=
  .unions [Category.rangesOf
      [.nonspacingMark, .enclosingMark, .format, .modifierLetter, .modifierSymbol],
    betweenRanges, betweenLettersRanges, [(0x27, 0x27)]]

/-- Characters whose lowercase form is another. -/
def changesInLowercaseRanges : Ranges :=
  (uppercaseRanges.union Category.titlecaseLetterRanges).difference loneCapitalRanges

/-- Characters whose uppercase form is another. -/
def changesInUppercaseRanges : Ranges :=
  (lowercaseRanges.union Category.titlecaseLetterRanges).difference loneSmallRanges

/-- Characters that take another form at the start of a word. -/
def changesInTitlecaseRanges : Ranges :=
  (changesInUppercaseRanges.difference titleFormRanges).union capitalPairRanges

/-- Characters that folding replaces. -/
def changesInFoldingRanges : Ranges :=
  (changesInLowercaseRanges.difference foldTargetRanges).union foldedSmallRanges

/-- Characters of which some form is another. -/
def changesInMappingRanges : Ranges :=
  .unions [changesInLowercaseRanges, changesInUppercaseRanges, changesInTitlecaseRanges]

end JsonPath.Unicode
