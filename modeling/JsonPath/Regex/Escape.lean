import JsonPath.Regex.Named
import JsonPath.Regex.Pattern

/-!
# Flags and escapes

The flags of a regular expression decide how its signs are read. This module holds the flags, the
free spacing that one of them allows, and the escapes, which are the same inside and outside of
bracketed classes.

All readers take characters from the front of a list and return what they read with the rest, or
nothing if the expression is invalid.
-/

namespace JsonPath.Regex

open JsonPath.Text JsonPath.Unicode

/-! ## Flags -/

/-- The flags that can be set and cleared inside an expression. -/
structure Flags where
  /-- letters match in either case -/
  ignoreCase : Bool := false
  /-- `^` and `$` match at the ends of lines -/
  multiLine : Bool := false
  /-- the dot matches the end of a line -/
  dotAll : Bool := false
  /-- properties of characters are those of all scripts -/
  unicode : Bool := true
  /-- a carriage return ends a line -/
  crlf : Bool := false
  /-- blanks and comments may stand between the signs -/
  freeSpacing : Bool := false
  /-- repetitions prefer few turns, and those with a question mark many -/
  reluctant : Bool := false
deriving Repr, DecidableEq

/-- A set in which case makes no difference, if the flags say so. -/
def Flags.fold (fl : Flags) (s : CharSet) : CharSet :=
  if fl.ignoreCase then (if fl.unicode then .folded s else .foldedLatin s) else s

/-! ## Free spacing -/

/-- Passes over blanks and over comments, which start with `#` and end with the line. -/
def skipFree (inComment : Bool) : List Char → List Char
  | [] => []
  | c :: cs =>
    if inComment then skipFree (c != '\n') cs
    else if isWhiteSpace c then skipFree false cs
    else if c == '#' then skipFree true cs
    else c :: cs

/-- Passes over what free spacing allows. -/
def skipSpace (fl : Flags) (cs : List Char) : List Char :=
  if fl.freeSpacing then skipFree false cs else cs

/-- Reads the characters of a kind at the start, with free spacing between and behind them. Each turn
takes at least one character. -/
def takeSpaced (fl : Flags) (p : Char → Bool) :
    (turns : Nat) → List Char → List Char × List Char
  | turns + 1, c :: cs =>
    if p c then
      let (ds, rest) := takeSpaced fl p turns (skipSpace fl cs)
      (c :: ds, rest)
    else ([], c :: cs)
  | _, cs => ([], cs)

/-! ## Elements -/

/-- The smallest parts of an expression. -/
inductive Element where
  /-- a character that stands for itself -/
  | literal (c : Char)
  /-- a character given by two hexadecimal digits -/
  | octet (c : Char)
  | look (l : Look)
  | set (s : CharSet)
deriving Repr, DecidableEq

/-- The character of an element, if it is one. Without the properties of all scripts, two
hexadecimal digits stand for an octet, and only the lower half of the octets are characters. -/
def Element.char? (fl : Flags) : Element → Option Char
  | literal c => some c
  | octet c => if fl.unicode || c < '\x80' then some c else none
  | _ => none

/-- Signs that have a meaning of their own. -/
def isSpecial (c : Char) : Bool := "\\.+*?()|[]\x7b\x7d^$#&-~".toList.contains c

/-- Signs that a backslash leaves as they are: those of the first 128 characters that are neither
letters nor digits nor angle brackets. -/
def isEscapable (c : Char) : Bool :=
  isSpecial c || c < '\x80' && !(isDigit c || ('A' ≤ c && c ≤ 'Z') || ('a' ≤ c && c ≤ 'z')
    || c == '<' || c == '>')

/-! ## Code points in hexadecimal -/

/-- Reads a number of hexadecimal digits, with free spacing between and behind them. -/
def hexDigits? (fl : Flags) : (count : Nat) → (value : Nat) → List Char → Option (Nat × List Char)
  | 0, value, cs => some (value, cs)
  | _ + 1, _, [] => none
  | count + 1, value, c :: cs => do
    hexDigits? fl count (16 * value + (← hexValue? c)) (skipSpace fl cs)

/-- Reads hexadecimal digits up to a closing brace, of which there is at least one. Each turn takes
at least one character. -/
def hexInBraces? (fl : Flags) :
    (turns : Nat) → (value : Option Nat) → List Char → Option (Nat × List Char)
  | 0, _, _ => none
  | _, _, [] => none
  | turns + 1, value, c :: cs =>
    if c == '\x7d' then value.map fun n => (n, skipSpace fl cs)
    else do hexInBraces? fl turns (some (16 * value.getD 0 + (← hexValue? c))) (skipSpace fl cs)

/-- Reads a code point behind the letter of its escape; `count` is the number of its digits, unless
they stand in braces. -/
def codePoint? (fl : Flags) (count : Nat) (cs : List Char) : Option (Element × List Char) := do
  match skipSpace fl cs with
  | '\x7b' :: rest =>
    let (n, rest) ← hexInBraces? fl (rest.length + 1) none (skipSpace fl rest)
    if n.isValidChar then return (.literal (Char.ofNat n), rest) else none
  | digits =>
    let (n, rest) ← hexDigits? fl count 0 digits
    if n.isValidChar then
      return (if count = 2 then .octet (Char.ofNat n) else .literal (Char.ofNat n), rest)
    else none

/-! ## Classes -/

/-- A set in terms of the first 128 characters, which may not reach beyond them. -/
def narrow? (s : CharSet) : Option CharSet := if s.isNarrow then some s else none

/-- The set of a class of one letter, which is a capital letter for the complement. -/
def letterClass? (fl : Flags) (c : Char) : Option CharSet :=
  let wide := fun negated s => some (CharSet.negatedIf negated s)
  let narrow := fun negated s => narrow? (CharSet.negatedIf negated s)
  if fl.unicode then
    match c with
    | 'd' => wide false ⟨Category.decimalNumberRanges⟩
    | 'D' => wide true ⟨Category.decimalNumberRanges⟩
    | 's' => wide false ⟨whiteSpaceRanges⟩
    | 'S' => wide true ⟨whiteSpaceRanges⟩
    | 'w' => wide false ⟨wordRanges⟩
    | 'W' => wide true ⟨wordRanges⟩
    | _ => none
  else
    match c with
    | 'd' => narrow false .latinDigit
    | 'D' => narrow true .latinDigit
    | 's' => narrow false .latinSpace
    | 'S' => narrow true .latinSpace
    | 'w' => narrow false .latinWord
    | 'W' => narrow true .latinWord
    | _ => none

/-- Reads the name of a property up to a closing brace. Free spacing is left out of it. Each turn
takes at least one character. -/
def nameInBraces? (fl : Flags) : (turns : Nat) → List Char → Option (List Char × List Char)
  | 0, _ => none
  | _, [] => none
  | turns + 1, c :: cs =>
    if c == '\x7d' then some ([], cs)
    else do
      let (name, rest) ← nameInBraces? fl turns (skipSpace fl cs)
      return (c :: name, rest)

/-- The set for the text between the braces of a property: a name alone, or a name and a value with
`=`, `:` or `!=` between them. -/
def propertyOf? (text : List Char) : Option CharSet :=
  let valued := fun (name value : List Char) => CharSet.valued? (.ofList name) (.ofList value)
  let splitAt := fun (sign : Char) => (text.takeWhile (· != sign), text.dropWhile (· != sign))
  let rec unequal : List Char → List Char → Option (List Char × List Char)
    | _, [] => none
    | before, '!' :: '=' :: rest => some (before.reverse, rest)
    | before, c :: rest => unequal (c :: before) rest
  match unequal [] text with
  | some (name, value) => (valued name value).map .complement
  | none =>
    match splitAt ':', splitAt '=' with
    | (name, _ :: value), _ => valued name value
    | _, (name, _ :: value) => valued name value
    | _, _ => CharSet.named? (.ofList text)

/-- Reads the text that says which property is meant: in braces, or a single letter. -/
def propertyText? (fl : Flags) (cs : List Char) : Option (List Char × List Char) :=
  match skipSpace fl cs with
  | [] => none
  | c :: rest =>
    match c with
    | '\x7b' => nameInBraces? fl (rest.length + 1) (skipSpace fl rest)
    | '\\' => none
    | c => some ([c], skipSpace fl rest)

/-- Reads a class of a Unicode property behind its letter. -/
def propertyClass? (fl : Flags) (negated : Bool) (cs : List Char) :
    Option (Element × List Char) := do
  let (text, rest) ← propertyText? fl cs
  if !fl.unicode then none
  else
    let s ← propertyOf? text
    return (.set (CharSet.negatedIf negated (fl.fold s)), rest)

/-! ## Conditions -/

/-- The condition that a name in braces gives to a boundary of words. -/
def boundaryNamed? (unicode : Bool) : String → Option Look
  | "start" => some (.wordStart unicode)
  | "end" => some (.wordEnd unicode)
  | "start-half" => some (.wordStartHalf unicode)
  | "end-half" => some (.wordEndHalf unicode)
  | _ => none

/-- Whether a character can stand in the name of a boundary. -/
def isBoundaryChar (c : Char) : Bool :=
  ('A' ≤ c && c ≤ 'Z') || ('a' ≤ c && c ≤ 'z') || c == '-'

/-- Reads the name of a boundary and the closing brace behind it. -/
def namedBoundary? (fl : Flags) (cs : List Char) : Option (Element × List Char) :=
  match takeSpaced fl isBoundaryChar cs.length cs with
  | (name, '\x7d' :: rest) =>
    (boundaryNamed? fl.unicode (.ofList name)).map fun l => (.look l, rest)
  | _ => none

/-- Reads what follows the letter of a boundary of words: a name in braces, or nothing. Braces that
hold no name are the count of a repetition. -/
def boundary? (fl : Flags) (cs : List Char) : Option (Element × List Char) :=
  let plain : Element := .look (.wordBoundary fl.unicode)
  match cs with
  | '\x7b' :: rest =>
    match skipSpace fl rest with
    | [] => none
    | c :: more => if isBoundaryChar c then namedBoundary? fl (c :: more) else some (plain, cs)
  | _ => some (plain, cs)

/-! ## Escapes -/

/-- The control character that a letter denotes behind a backslash. -/
def controlChar? : Char → Option Char
  | 'a' => some '\x07'
  | 'f' => some '\x0c'
  | 't' => some '\t'
  | 'n' => some '\n'
  | 'r' => some '\r'
  | 'v' => some '\x0b'
  | _ => none

/-- Reads an escape behind its backslash. References to groups are not supported. -/
def escape? (fl : Flags) : List Char → Option (Element × List Char)
  | [] => none
  | c :: cs =>
    match c with
    | 'x' => codePoint? fl 2 cs
    | 'u' => codePoint? fl 4 cs
    | 'U' => codePoint? fl 8 cs
    | 'p' => propertyClass? fl false cs
    | 'P' => propertyClass? fl true cs
    | 'A' => some (.look .textStart, cs)
    | 'z' => some (.look .textEnd, cs)
    | 'b' => boundary? fl cs
    | 'B' => some (.look (.notWordBoundary fl.unicode), cs)
    | '<' => some (.look (.wordStart fl.unicode), cs)
    | '>' => some (.look (.wordEnd fl.unicode), cs)
    | c =>
      if ['d', 'D', 's', 'S', 'w', 'W'].contains c then
        (letterClass? fl c).map fun s => (.set s, cs)
      else if isEscapable c then some (.literal c, cs)
      else (controlChar? c).map fun d => (.literal d, cs)

end JsonPath.Regex
