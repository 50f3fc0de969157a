import JsonPath.Text.Numeral
import JsonPath.Text.Reader
import JsonPath.Token

/-!
# Cutting a text into tokens

A text is a list of *glyphs*: characters, and gaps where the octets encode none. Blanks separate
tokens and belong to none. Every other glyph starts a token or continues the one before it, so each
glyph that is no blank is part of exactly one token, and nothing is refused: what fits no kind of
token is one of kind `unknown`.

Where a token ends is computed in lengths. `Part` is the length of a part of a token together with
whether that part is as it should be; a part that breaks off has the length of what was read of it.
`scan` gives the kind of the token that starts with a given glyph and the number of glyphs that
follow in it. So a token is never empty, which is why cutting ends (`next?_length_lt`).
-/

namespace JsonPath.Token

open JsonPath.Text

/-- A character of the text, or a gap: octets that encode no character. -/
abbrev Glyph := Option Char

namespace Glyph

/-- A gap is shown as the replacement character. -/
def toChar (g : Glyph) : Char := g.getD '\uFFFD'

/-- Whether the glyph is a character of a class. -/
def isIn (p : Char → Bool) (g : Glyph) : Bool := g.any p

end Glyph

/-- The text that glyphs show. -/
def textOf (gs : List Glyph) : String := .ofList (gs.map Glyph.toChar)

/-! ## Classes of characters -/

/-- The blanks: space, tab and the two ends of a line. -/
def isBlank (c : Char) : Bool := c == ' ' || c == '\t' || c == '\n' || c == '\r'

/-- The characters that a name starts with: Latin letters, the underscore, and everything beyond
the first 128 characters. -/
def isNameStart (c : Char) : Bool :=
  ('A' ≤ c && c ≤ 'Z') || ('a' ≤ c && c ≤ 'z') || c == '_' || '\x80' ≤ c

/-- The characters that a name continues with. -/
def isNameChar (c : Char) : Bool := isNameStart c || isDigit c

/-- The characters that stand for themselves in a string of either sort. -/
def isPlain (c : Char) : Bool := ' ' ≤ c && c != '"' && c != '\'' && c != '\\'

/-- The letters that denote a character behind a backslash, and the two signs that denote
themselves there. -/
def isEscapeLetter (c : Char) : Bool :=
  c == 'b' || c == 'f' || c == 'n' || c == 'r' || c == 't' || c == '/' || c == '\\'

/-- The first halves of surrogate pairs. -/
def isHighSurrogate (n : Nat) : Bool := 0xD800 ≤ n && n ≤ 0xDBFF

/-- The second halves of surrogate pairs. -/
def isLowSurrogate (n : Nat) : Bool := 0xDC00 ≤ n && n ≤ 0xDFFF

/-! ## Parts of tokens -/

/-- A part of a token: how many glyphs it takes up, and whether it is as it should be. -/
structure Part where
  length : Nat
  complete : Bool
deriving Repr, DecidableEq

namespace Part

/-- The part with some more glyphs in front. -/
def behind (n : Nat) (p : Part) : Part := ⟨n + p.length, p.complete⟩

end Part

/-- The number of glyphs at the front that are characters of a class. -/
def run (p : Char → Bool) (gs : List Glyph) : Nat := (gs.takeWhile (Glyph.isIn p)).length

/-- Digits, at least one. -/
def someDigits (gs : List Glyph) : Part := ⟨run isDigit gs, run isDigit gs != 0⟩

/-- The fraction of a number, or nothing. -/
def fraction : List Glyph → Part
  | some '.' :: rest => (someDigits rest).behind 1
  | _ => ⟨0, true⟩

/-- The digits of an exponent and the sign in front of them, which may be absent. -/
def signedDigits : List Glyph → Part
  | some '-' :: rest => (someDigits rest).behind 1
  | some '+' :: rest => (someDigits rest).behind 1
  | gs => someDigits gs

/-- The exponent of a number, or nothing. -/
def exponent : List Glyph → Part
  | some 'e' :: rest => (signedDigits rest).behind 1
  | some 'E' :: rest => (signedDigits rest).behind 1
  | _ => ⟨0, true⟩

/-- What may follow the integer part of a number: a fraction and an exponent. -/
def decimals (gs : List Glyph) : Part :=
  let f := fraction gs
  if f.complete then (exponent (gs.drop f.length)).behind f.length else f

/-- The number that four hexadecimal digits denote. Fewer denote none. -/
def hexQuad? (gs : List Glyph) : Option Nat :=
  match gs with
  | some a :: some b :: some c :: some d :: _ => do
    return 0x1000 * (← hexValue? a) + 0x100 * (← hexValue? b) + 0x10 * (← hexValue? c)
      + (← hexValue? d)
  | _ => none

/-- The number of hexadecimal digits at the front, up to four. -/
def hexLength (gs : List Glyph) : Nat := run (hexValue? · |>.isSome) (gs.take 4)

/-- The escaped second half of a surrogate pair. -/
def lowSurrogate : List Glyph → Part
  | some '\\' :: some 'u' :: rest => ⟨2 + hexLength rest, (hexQuad? rest).any isLowSurrogate⟩
  | some '\\' :: _ => ⟨1, false⟩
  | _ => ⟨0, false⟩

/-- The digits of a code point behind `\u`. The first half of a surrogate pair is followed by the
second, and the second stands nowhere else. -/
def escapedCode (gs : List Glyph) : Part :=
  match hexQuad? gs with
  | none => ⟨hexLength gs, false⟩
  | some n =>
    if isHighSurrogate n then (lowSurrogate (gs.drop 4)).behind 4 else ⟨4, !isLowSurrogate n⟩

/-- What follows a backslash in a string with the given quotes. -/
def escape (quote : Char) : List Glyph → Part
  | some 'u' :: rest => (escapedCode rest).behind 1
  | some c :: _ => if c == quote || isEscapeLetter c then ⟨1, true⟩ else ⟨0, false⟩
  | _ => ⟨0, false⟩

/-- What follows the first quote of a string, the second quote included. Inside stand plain
characters, the quote of the other sort, and escapes. -/
def stringTail (quote : Char) : List Glyph → Part
  | [] => ⟨0, false⟩
  | none :: _ => ⟨0, false⟩
  | some c :: rest =>
    if c == quote then ⟨1, true⟩
    else if c == '\\' then
      let e := escape quote rest
      if e.complete then (stringTail quote (rest.drop e.length)).behind (1 + e.length)
      else e.behind 1
    else if isPlain c || c == '"' || c == '\'' then (stringTail quote rest).behind 1
    else ⟨0, false⟩
termination_by gs => gs.length
decreasing_by
  · simp only [List.length_drop, List.length_cons]; omega
  · exact Nat.lt_succ_self _

/-! ## Tokens -/

/-- A token with a kind if it is as it should be. -/
def Part.kinded (p : Part) (kind : Kind) : Kind × Nat :=
  (if p.complete then kind else .unknown, p.length)

/-- What follows the integer part of a number. With nothing behind it the number has the kind
`whole`. -/
def numberTail (whole : Kind) (gs : List Glyph) : Kind × Nat :=
  let d := decimals gs
  d.kinded (if d.length = 0 then whole else .decimal)

/-- What follows the hyphen of a negative number. A zero needs a fraction or an exponent. -/
def negativeTail : List Glyph → Kind × Nat
  | some '0' :: rest =>
    let t := numberTail .unknown rest
    (t.1, 1 + t.2)
  | gs =>
    let n := run isDigit gs
    if n = 0 then (.unknown, 0)
    else
      let t := numberTail .integer (gs.drop n)
      (t.1, n + t.2)

/-- A token of two signs, if the second is there, and of one otherwise. -/
def pairTail (second : Char) (paired alone : Kind) : List Glyph → Kind × Nat
  | some c :: _ => if c == second then (paired, 1) else (alone, 0)
  | _ => (alone, 0)

/-- The kind of the token that starts with a character, and the number of glyphs behind that
character that belong to it. -/
def scanChar (c : Char) (rest : List Glyph) : Kind × Nat :=
  match c with
  | '0' => numberTail .integer rest
  | '-' => negativeTail rest
  | '|' => pairTail '|' .disjunction .unknown rest
  | '&' => pairTail '&' .conjunction .unknown rest
  | '=' => pairTail '=' .equal .unknown rest
  | '>' => pairTail '=' .greaterEqual .greater rest
  | '<' => pairTail '=' .lessEqual .less rest
  | '!' => pairTail '=' .notEqual .negation rest
  | '.' => pairTail '.' .dotDot .dot rest
  | '(' => (.openParen, 0)
  | ')' => (.closeParen, 0)
  | '[' => (.openBracket, 0)
  | ']' => (.closeBracket, 0)
  | '$' => (.root, 0)
  | '@' => (.current, 0)
  | ':' => (.colon, 0)
  | ',' => (.comma, 0)
  | '*' => (.asterisk, 0)
  | '?' => (.questionMark, 0)
  | '\'' => (stringTail '\'' rest).kinded .string
  | '"' => (stringTail '"' rest).kinded .string
  | c =>
    if isDigit c then
      let n := run isDigit rest
      let t := numberTail .integer (rest.drop n)
      (t.1, n + t.2)
    else if isNameStart c then (.name, run isNameChar rest)
    else (.unknown, 0)

/-- The kind of the token that starts with a glyph, and the number of glyphs behind it that belong
to the token. -/
def scan (first : Glyph) (rest : List Glyph) : Kind × Nat :=
  match first with
  | some c => scanChar c rest
  | none => (.unknown, 0)

/-- The next token and the glyphs behind it, if there is a token. -/
def next? (gs : List Glyph) : Option (Token × List Glyph) :=
  match gs.dropWhile (Glyph.isIn isBlank) with
  | [] => none
  | first :: rest =>
    let s := scan first rest
    some (⟨s.1, textOf (first :: rest.take s.2)⟩, rest.drop s.2)

/-- Every token takes at least one glyph. -/
theorem next?_length_lt {gs rest : List Glyph} {t : Token} (h : next? gs = some (t, rest)) :
    rest.length < gs.length := by
  have hle := (List.dropWhile_sublist (l := gs) (Glyph.isIn isBlank)).length_le
  unfold next? at h
  split at h
  · cases h
  · rename_i first tail hd
    obtain ⟨-, rfl⟩ := Prod.mk.inj (Option.some.inj h)
    rw [hd] at hle
    simp only [List.length_cons, List.length_drop] at hle ⊢
    omega

/-- The tokens of a text without byte order mark, up to its end. -/
def lexemes (gs : List Glyph) : List Token :=
  match _h : next? gs with
  | none => []
  | some (t, rest) => t :: lexemes rest
termination_by gs.length
decreasing_by exact next?_length_lt _h

theorem lexemes_of_none {gs : List Glyph} (h : next? gs = none) : lexemes gs = [] := by
  rw [lexemes]; split
  · rfl
  · simp_all

/-- The tokens of a text are the first one and those behind it. -/
theorem lexemes_of_some {gs rest : List Glyph} {t : Token} (h : next? gs = some (t, rest)) :
    lexemes gs = t :: lexemes rest := by
  rw [lexemes]; split
  · simp_all
  · simp_all

/-! ## Lexers -/

/-- The token for the byte order mark in front of a text. -/
def mark : Token := ⟨.byteOrderMark, "\uFEFF"⟩

/-- A position between the tokens of a text. -/
structure Lexer where
  /-- whether the byte order mark comes next -/
  marked : Bool
  /-- the glyphs behind the position -/
  rest : List Glyph
deriving Repr

namespace Lexer

/-- A lexer in front of the first token. -/
def ofBytes (octets : List UInt8) : Lexer :=
  let r := Reader.ofBytes octets
  ⟨r.marked, r.readAll.1.map Reading.char?⟩

/-- The next token and the position behind it. Behind the last token, the end is found again and
again. -/
def next (l : Lexer) : Token × Lexer :=
  if l.marked then (mark, { l with marked := false })
  else match next? l.rest with
    | some (t, rest) => (t, { l with rest := rest })
    | none => (endOfInput, { l with rest := [] })

/-- The next token. -/
def peek (l : Lexer) : Token := l.next.1

/-- All tokens from the position on, the end among them. -/
def all (l : Lexer) : List Token :=
  (if l.marked then [mark] else []) ++ lexemes l.rest ++ [endOfInput]

end Lexer

/-- The tokens of a text in UTF-8, the end of the input as the last of them. -/
def tokenize (octets : List UInt8) : List Token := (Lexer.ofBytes octets).all

end JsonPath.Token
