import JsonPath.Text.Quoted

/-!
# Tokens

The text of a query is cut into tokens. A token has a kind and keeps its text as it was written;
what has no place in a query at all is a token too, of kind `unknown`. A message shows a token by
the name of its kind, followed by its text between quotes (`Token.describe`).
-/

namespace JsonPath

open JsonPath.Text

namespace Token

/-- The kinds of token. -/
inductive Kind where
  /-- what is no token of a query -/
  | unknown
  /-- the mark in front of a text -/
  | byteOrderMark
  /-- what stands behind the last token -/
  | endOfInput
  /-- `$` -/
  | root
  /-- `@` -/
  | current
  /-- the name of a member or a function -/
  | name
  | openBracket
  | closeBracket
  | openParen
  | closeParen
  | dot
  | dotDot
  | asterisk
  | comma
  | colon
  | questionMark
  /-- a string between quotes of either sort -/
  | string
  /-- a number without fraction and exponent -/
  | integer
  /-- a number with a fraction or an exponent -/
  | decimal
  /-- `||` -/
  | disjunction
  /-- `&&` -/
  | conjunction
  /-- `!` -/
  | negation
  /-- `==` -/
  | equal
  /-- `!=` -/
  | notEqual
  | less
  | greater
  | lessEqual
  | greaterEqual
deriving Repr, DecidableEq, Inhabited

namespace Kind

/-- Whether the token is one of the six comparison operators. -/
def isComparison : Kind → Bool
  | equal | notEqual | less | greater | lessEqual | greaterEqual => true
  | _ => false

/-- How messages call the tokens of a kind. -/
def describe : Kind → String
  | unknown => "unknown token"
  | byteOrderMark => "byte order mark"
  | endOfInput => "end of input"
  | root => "`$`"
  | current => "`@`"
  | name => "member name"
  | openBracket => "`[`"
  | closeBracket => "`]`"
  | openParen => "`(`"
  | closeParen => "`)`"
  | dot => "`.`"
  | dotDot => "`..`"
  | asterisk => "`*`"
  | comma => "`,`"
  | colon => "`:`"
  | questionMark => "`?`"
  | string => "string literal"
  | integer => "integer literal"
  | decimal => "float literal"
  | disjunction => "`||`"
  | conjunction => "`&&`"
  | negation => "`!`"
  | equal => "`==`"
  | notEqual => "`!=`"
  | less => "`<`"
  | greater => "`>`"
  | lessEqual => "`<=`"
  | greaterEqual => "`>=`"

end Kind

end Token

/-- A token: its kind and its text. -/
structure Token where
  kind : Token.Kind
  text : String
deriving Repr, DecidableEq, Inhabited

namespace Token

/-- The token behind the last one. It has no text. -/
def endOfInput : Token := ⟨.endOfInput, ""⟩

/-- How messages show a token. -/
def describe (t : Token) : String :=
  if t.text.isEmpty then t.kind.describe else t.kind.describe ++ " " ++ quoted t.text

end Token

end JsonPath
