import JsonPath.Query
import JsonPath.Number.Layout
import JsonPath.Text.Numeral

/-!
# The text of queries

A query has one canonical text. Names stand in single quotes, except behind a dot. Blanks stand
around operators and behind commas and nowhere else. Expressions are written as they are built: no
parentheses are added or left out.
-/

namespace JsonPath.Query

open JsonPath.Text

/-! ## Literals -/

/-- The letter that stands for a character behind a backslash in a literal, if it has one. -/
def escapeLetter? : Char → Option Char
  | '\'' => some '\''
  | '\\' => some '\\'
  | '\x08' => some 'b'
  | '\x0c' => some 'f'
  | '\n' => some 'n'
  | '\r' => some 'r'
  | '\t' => some 't'
  | _ => none

/-- A character as it is written inside a literal: control characters are escaped, and so are the
quote and the backslash. -/
def escapeChar (c : Char) : List Char :=
  match escapeLetter? c with
  | some letter => ['\\', letter]
  | none => if c < ' ' then ['\\', 'u'] ++ padded 4 (digits 16 c.toNat) else [c]

/-- The inside of the literal for a text. -/
def escapeText (s : String) : List Char := s.toList.flatMap escapeChar

/-- The literal for a text. -/
def literalText (s : String) : List Char := '\'' :: escapeText s ++ ['\'']

/-- Floating-point literals are written positionally with a leading digit between `10 ^ -4` and
`10 ^ 15`. Exponents have no plus sign, and of two equally near decimals the greater is written. -/
def literalLayout : Number.Layout where
  plainFrom := -4
  plainTo := 15
  plusSign := false
  tie := .up

/-- Texts with a comma and a blank between them. -/
def commaSeparated : List (List Char) → List Char
  | [] => []
  | [t] => t
  | t :: ts => t ++ ',' :: ' ' :: commaSeparated ts

/-! ## The parts of a query -/

/-- The sign of an anchor. -/
def Anchor.sign : Anchor → Char
  | root => '$'
  | current => '@'

/-- What stands in front of selectors in brackets. -/
def Reach.text : Reach → List Char
  | children => []
  | descendants => ['.', '.']

/-- What stands in front of a selector without brackets. -/
def Reach.dots : Reach → List Char
  | children => ['.']
  | descendants => ['.', '.']

/-- The signs of a comparison. -/
def Comparison.text : Comparison → List Char
  | equal => ['=', '=']
  | notEqual => ['!', '=']
  | less => ['<']
  | lessEqual => ['<', '=']
  | greater => ['>']
  | greaterEqual => ['>', '=']

/-- The signs of an operator. -/
def Operator.text : Operator → List Char
  | and => ['&', '&']
  | or => ['|', '|']
  | compare c => c.text

/-- A bound of a slice, or nothing. -/
def boundText (bound : Option Int64) : List Char :=
  match bound with
  | some i => integer i.toInt
  | none => []

/-- The text of a slice. The second colon stands only in front of a step. -/
def Slice.text (s : Slice) : List Char :=
  boundText s.start ++ ':' :: boundText s.stop
    ++ (if s.step.isSome then ':' :: boundText s.step else [])

mutual

/-- The text of a selector in brackets. -/
def Selector.text : Selector → List Char
  | .name s => literalText s
  | .shorthand s => literalText s
  | .wildcard => ['*']
  | .index i => integer i.toInt
  | .slice s => s.text
  | .filter e => '?' :: e.text

/-- The text of a segment. Selectors that cannot stand behind a dot are put in brackets. -/
def Segment.text : Segment → List Char
  | .dot reach (.shorthand s) => reach.dots ++ s.toList
  | .dot reach .wildcard => reach.dots ++ ['*']
  | .dot reach s => reach.text ++ '[' :: s.text ++ [']']
  | .brackets reach ss => reach.text ++ '[' :: commaSeparated (selectorTexts ss) ++ [']']

/-- The texts of selectors. -/
def selectorTexts : List Selector → List (List Char)
  | [] => []
  | s :: ss => s.text :: selectorTexts ss

/-- The text of segments. -/
def segmentsText : List Segment → List Char
  | [] => []
  | s :: ss => s.text ++ segmentsText ss

/-- The text of an expression. -/
def Expr.text : Expr → List Char
  | .integer n => integer n.toInt
  | .float x => literalLayout.float x
  | .string s => literalText s
  | .bool true => ['t', 'r', 'u', 'e']
  | .bool false => ['f', 'a', 'l', 's', 'e']
  | .null => ['n', 'u', 'l', 'l']
  | .binary op l r => l.text ++ ' ' :: op.text ++ ' ' :: r.text
  | .not e => '!' :: e.text
  | .paren e => '(' :: e.text ++ [')']
  | .call f es => f.toList ++ '(' :: commaSeparated (exprTexts es) ++ [')']
  | .single a ss => a.sign :: segmentsText ss
  | .nodes a ss => a.sign :: segmentsText ss

/-- The texts of expressions. -/
def exprTexts : List Expr → List (List Char)
  | [] => []
  | e :: es => e.text :: exprTexts es

end

/-- The text of an expression. -/
def Expr.toText (e : Expr) : String := .ofList e.text

/-- The canonical text of a query. -/
def text (q : Query) : List Char := '$' :: segmentsText q.segments

/-- The canonical text of a query. -/
def toText (q : Query) : String := .ofList q.text

end JsonPath.Query
