import JsonPath.Unicode.Symbol

/-!
# Identifiers

The characters that an identifier may start with, and those that it may go on with. Each set has a
closed form, in which no character is left out of an identifier when the text is normalised.
-/

namespace JsonPath.Unicode

/-! ## Tables -/

/-- Starts of identifiers that are neither letters nor letter numbers. -/
def otherIdStartRanges : Ranges := .ofLines
  ["1885-1886 2118 212E 309B-309C"]

/-- Parts of identifiers that are neither starts, marks, digits nor connectors. -/
def otherIdContinueRanges : Ranges := .ofLines
  ["B7 387 1369-1371 19DA 200C-200D 30FB FF65"]

/-- Starts of identifiers that normalisation turns into something else. -/
def openIdStartRanges : Ranges := .ofLines
  ["37A E33 EB3 309B-309C FC5E-FC63 FDFA-FDFB FE70 FE72 FE74 FE76 FE78 FE7A FE7C FE7E FF9E-FF9F"]

/-- Parts of identifiers that normalisation turns into something else. -/
def openIdContinueRanges : Ranges := .ofLines
  ["37A 309B-309C FC5E-FC63 FDFA-FDFB FE70 FE72 FE74 FE76 FE78 FE7A FE7C FE7E"]

/-- Mathematical signs that an identifier may start with in a profile of its own. -/
def idCompatMathStartRanges : Ranges := .ofLines
  ["2202 2207 221E 1D6C1 1D6DB 1D6FB 1D715 1D735 1D74F 1D76F 1D789 1D7A9 1D7C3"]

/-- Mathematical signs that an identifier may go on with in that profile. -/
def idCompatMathContinueRanges : Ranges := .ofLines
  ["B2-B3 B9 2070 2074-207E 2080-208E 2202 2207 221E 1D6C1 1D6DB 1D6FB 1D715 1D735 1D74F 1D76F",
   "1D789 1D7A9 1D7C3"]

/-! ## Sets -/

/-- Characters that an identifier may start with. -/
def idStartRanges : Ranges := (letterRanges.union otherIdStartRanges).difference patternRanges

/-- Characters that an identifier may go on with. -/
def idContinueRanges : Ranges :=
  Ranges.difference
    (.unions [idStartRanges, otherIdContinueRanges, Category.rangesOf
      [.nonspacingMark, .spacingMark, .decimalNumber, .connectorPunctuation]])
    patternRanges

/-- Characters that an identifier may start with, normalised or not. -/
def closedIdStartRanges : Ranges := idStartRanges.difference openIdStartRanges

/-- Characters that an identifier may go on with, normalised or not. -/
def closedIdContinueRanges : Ranges := idContinueRanges.difference openIdContinueRanges

end JsonPath.Unicode
