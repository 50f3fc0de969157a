import JsonPath.Number.Nearest
import JsonPath.Token.Lexer

/-!
# What literals denote

Between the quotes of a string literal an escape stands for one character: a letter for a common
one, and four hexadecimal digits for any code point of at most sixteen bits. Higher code points are
written as the two halves of a surrogate pair. Decoding takes the escapes to be well formed and
never fails. It does not look at the quotes, and digits that are missing count as zero.

Number literals are taken to be well formed as well. They may denote a number that is out of range.
-/

namespace JsonPath.Token.Literal

open JsonPath.Text

/-! ## Strings -/

/-- The character that an escape of one sign denotes. Signs that are no letters of an escape
denote themselves. -/
def escaped : Char → Char
  | 'b' => '\x08'
  | 'f' => '\x0c'
  | 'n' => '\n'
  | 'r' => '\r'
  | 't' => '\t'
  | c => c

/-- The number that the hexadecimal digits among four characters denote. -/
def hexQuad (cs : List Char) : Nat :=
  ((cs.take 4).filterMap hexValue?).foldl (fun n d => 16 * n + d) 0

/-- The code point that a surrogate pair denotes. -/
def surrogatePair (high low : Nat) : Nat := 0x10000 + (high - 0xD800) * 0x400 + low - 0xDC00

/-- The character with a given code point, or the replacement character. -/
def charOf (n : Nat) : Char := if n.isValidChar then Char.ofNat n else '\uFFFD'

/-- The characters that the inside of a literal denotes. -/
def decode : List Char → List Char
  | [] => []
  | ['\\'] => []
  | '\\' :: 'u' :: rest =>
    let high := hexQuad rest
    if isHighSurrogate high then
      charOf (surrogatePair high (hexQuad (rest.drop 6))) :: decode (rest.drop 10)
    else charOf high :: decode (rest.drop 4)
  | '\\' :: c :: rest => escaped c :: decode rest
  | c :: rest => c :: decode rest
termination_by cs => cs.length
decreasing_by
  all_goals simp only [List.length_drop, List.length_cons]; omega

/-- The text that a literal denotes. Its first and its last character are the quotes. -/
def unescape (text : String) : String := .ofList (decode (text.toList.drop 1).dropLast)

/-! ## Numbers -/

/-- The integer that a literal denotes, if it has 64 bits. -/
def integer? (text : String) : Option Int64 :=
  let n := ofInteger text.toList
  if -Nat.pow 2 63 ≤ n ∧ n < Nat.pow 2 63 then some (.ofInt n) else none

/-- The exponent that its digits denote, with a sign in front of them or without one. -/
def exponentOf : List Char → Int
  | '-' :: ds => -(ofDigits ds : Int)
  | '+' :: ds => ofDigits ds
  | ds => ofDigits ds

/-- The floating-point number nearest to what a literal denotes, unless it is infinite. -/
def float? (text : String) : Option Float :=
  let (negative, cs) := match text.toList with
    | '-' :: cs => (true, cs)
    | cs => (false, cs)
  let (whole, cs) := cs.span isDigit
  let (fraction, cs) := match cs with
    | '.' :: cs => cs.span isDigit
    | cs => ([], cs)
  Number.ofDecimal? negative (ofDigits (whole ++ fraction))
    (exponentOf (cs.drop 1) - fraction.length)

end JsonPath.Token.Literal
