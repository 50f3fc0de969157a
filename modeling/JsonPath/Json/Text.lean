import JsonPath.Json
import JsonPath.Number.Layout

/-!
# The text of documents

A value is written on one line without blanks (`compact`), or over many lines with each item and
member on a line of its own, indented by two blanks a level (`pretty`). An empty array or object is
written in two characters either way.
-/

namespace JsonPath

open JsonPath.Text

/-! ## Scalars -/

/-- Numbers of a document are written positionally with a leading digit between `10 ^ -5` and
`10 ^ 15`. Positive exponents have a sign, and of two equally near decimals the even one is
written. -/
def documentLayout : Number.Layout where
  plainFrom := -5
  plainTo := 15
  plusSign := true
  tie := .toEven

/-- The text of a number. -/
def Number.text : Number → List Char
  | integer n => Text.integer n.toInt
  | natural n _ => digits 10 n.toNat
  | float x _ => documentLayout.float x

namespace Json

/-- The letter that stands for a character behind a backslash, if it has one. -/
def escapeLetter? : Char → Option Char
  | '"' => some '"'
  | '\\' => some '\\'
  | '\x08' => some 'b'
  | '\x0c' => some 'f'
  | '\n' => some 'n'
  | '\r' => some 'r'
  | '\t' => some 't'
  | _ => none

/-- A character as it is written inside a string: control characters are escaped, and so are the
quote and the backslash. -/
def stringChar (c : Char) : List Char :=
  match escapeLetter? c with
  | some letter => ['\\', letter]
  | none => if c < ' ' then ['\\', 'u'] ++ padded 4 (digits 16 c.toNat) else [c]

/-- A string between quotes. -/
def stringText (s : String) : List Char := '"' :: s.toList.flatMap stringChar ++ ['"']

/-! ## One line -/

mutual

/-- A value without any blanks. -/
def compact : Json → List Char
  | null => ['n', 'u', 'l', 'l']
  | bool true => ['t', 'r', 'u', 'e']
  | bool false => ['f', 'a', 'l', 's', 'e']
  | number n => n.text
  | string s => stringText s
  | array items => '[' :: compactItems items
  | object members => '\x7b' :: compactMembers members

/-- The items of an array and the bracket behind them. -/
def compactItems : List Json → List Char
  | [] => [']']
  | [x] => x.compact ++ [']']
  | x :: xs => x.compact ++ ',' :: compactItems xs

/-- The members of an object and the brace behind them. -/
def compactMembers : List (String × Json) → List Char
  | [] => ['\x7d']
  | [(name, x)] => stringText name ++ ':' :: x.compact ++ ['\x7d']
  | (name, x) :: ms => stringText name ++ ':' :: x.compact ++ ',' :: compactMembers ms

end

/-! ## Many lines -/

/-- The start of a line: two blanks for each level. -/
def newLine (level : Nat) : List Char := '\n' :: List.replicate (2 * level) ' '

mutual

/-- A value whose items stand on lines of their own. The value itself is at the given level. -/
def prettyAt (level : Nat) : Json → List Char
  | array [] => ['[', ']']
  | array (x :: xs) => '[' :: prettyItems level (x :: xs)
  | object [] => ['\x7b', '\x7d']
  | object (m :: ms) => '\x7b' :: prettyMembers level (m :: ms)
  | null => ['n', 'u', 'l', 'l']
  | bool true => ['t', 'r', 'u', 'e']
  | bool false => ['f', 'a', 'l', 's', 'e']
  | number n => n.text
  | string s => stringText s

/-- Items one level below the array, and its last line. -/
def prettyItems (level : Nat) : List Json → List Char
  | [] => newLine level ++ [']']
  | [x] => newLine (level + 1) ++ x.prettyAt (level + 1) ++ newLine level ++ [']']
  | x :: xs => newLine (level + 1) ++ x.prettyAt (level + 1) ++ ',' :: prettyItems level xs

/-- Members one level below the object, and its last line. -/
def prettyMembers (level : Nat) : List (String × Json) → List Char
  | [] => newLine level ++ ['\x7d']
  | [(name, x)] =>
    newLine (level + 1) ++ stringText name ++ ':' :: ' ' :: x.prettyAt (level + 1)
      ++ newLine level ++ ['\x7d']
  | (name, x) :: ms =>
    newLine (level + 1) ++ stringText name ++ ':' :: ' ' :: x.prettyAt (level + 1)
      ++ ',' :: prettyMembers level ms

end

/-- The text of a value on one line. -/
def toText (j : Json) : String := .ofList j.compact

/-- The text of a value over many lines. -/
def toPrettyText (j : Json) : String := .ofList (j.prettyAt 0)

end Json

end JsonPath
