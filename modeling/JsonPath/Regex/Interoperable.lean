import JsonPath.Regex.Match
import JsonPath.Regex.Parser

/-!
# Interoperable regular expressions

The expressions of a query are of a simple kind that all engines share. They differ from the ones
read here in two respects: the dot matches everything but the two characters that end lines, and a
bracketed class contains neither classes nor, right behind its opening bracket, an end. `adapt`
changes an expression accordingly; whatever is escaped stays as it is.

An expression is matched either against a whole text, between conditions for its two ends, or
against any stretch of it. The conditions are put around the text of the expression, not around its
pattern.
-/

namespace JsonPath.Regex

/-- What stands for the dot: any character that does not end a line. -/
def dotClass : List Char := ['[', '^', '\\', 'n', '\\', 'r', ']']

/-- Adapts an expression from some place on, inside of a class or outside. -/
def adaptFrom (inClass : Bool) : List Char → List Char
  | [] => []
  | ['\\'] => ['\\']
  | '\\' :: c :: cs => '\\' :: c :: adaptFrom inClass cs
  | '[' :: cs =>
    if inClass then '\\' :: '[' :: adaptFrom true cs
    else match cs with
      | '^' :: ']' :: cs => '[' :: '^' :: '\\' :: ']' :: adaptFrom true cs
      | '^' :: cs => '[' :: '^' :: adaptFrom true cs
      | ']' :: cs => '[' :: '\\' :: ']' :: adaptFrom true cs
      | cs => '[' :: adaptFrom true cs
  | ']' :: cs => ']' :: adaptFrom false cs
  | '.' :: cs =>
    if inClass then '.' :: adaptFrom true cs else dotClass ++ adaptFrom false cs
  | c :: cs => c :: adaptFrom inClass cs

/-- Adapts an interoperable expression. -/
def adapt (pattern : String) : String := .ofList (adaptFrom false pattern.toList)

/-- How much of a text an expression is to match. -/
inductive Extent where
  /-- all of it -/
  | whole
  /-- any stretch of it -/
  | part
deriving Repr, DecidableEq

/-- The expression that is read for an interoperable one. -/
def Extent.source : Extent → String → List Char
  | whole, pattern =>
    ['\\', 'A', '(', '?', ':'] ++ (adapt pattern).toList ++ [')', '\\', 'z']
  | part, pattern => (adapt pattern).toList

/-- The pattern for an interoperable expression, if it is valid. -/
def compile? (extent : Extent) (pattern : String) : Option Pattern :=
  Pattern.ofChars? (extent.source pattern)

/-- Whether a text matches what was made of an expression. Nothing matches an invalid one. -/
def accepts (compiled : Option Pattern) (text : String) : Bool :=
  compiled.any fun p => p.isMatch text.toList

end JsonPath.Regex
