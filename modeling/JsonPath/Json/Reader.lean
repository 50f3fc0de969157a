import JsonPath.Json
import JsonPath.Number.Nearest

/-!
# Reading documents

A document is read strictly: one value with blanks around it, no comments, no commas to spare, no
unescaped control character in a string, and no half of a surrogate pair on its own. Arrays and
objects are nested at most 127 levels deep. A member that occurs twice keeps its first place and its
last value.

Each reader takes characters from the front of a list and returns what it read with the rest, or
nothing. Recursion into arrays and objects goes by the levels that are left; the items of one level
are read one after the other, and there cannot be more of them than characters.

A number without fraction and exponent is exact if it has a place among the integers of 64 bits.
Any other number is computed in floating point: its first digits, as many as 64 bits hold, are
scaled by a power of ten in steps of at most `10 ^ 308`. A result that is not finite is refused.
-/

namespace JsonPath.Json

open JsonPath.Text

/-- The deepest nesting of arrays and objects. -/
def maxDepth : Nat := 127

/-- The blanks of a document. -/
def isBlank (c : Char) : Bool := c == ' ' || c == '\n' || c == '\t' || c == '\r'

/-- The characters behind the blanks at the front. -/
def skipBlanks (cs : List Char) : List Char := cs.dropWhile isBlank

/-! ## Numbers -/

/-- The greatest natural number of 64 bits. -/
def maxNatural : Nat := Nat.pow 2 64 - 1

/-- Appends digits to a significand as long as it fits into 64 bits, and gives the digits that are
left. -/
def appendDigits (significand : Nat) : List Char → Nat × List Char
  | [] => (significand, [])
  | d :: ds =>
    let next := 10 * significand + (decimalValue? d).getD 0
    if next ≤ maxNatural then appendDigits next ds else (significand, d :: ds)

/-- Brings an exponent into a range of 32 bits, at whose ends it stays. -/
def saturated (e : Int) : Int := max (-Nat.pow 2 31) (min e (Nat.pow 2 31 - 1))

/-- A power of ten as a floating-point number. -/
def powerOfTen (n : Nat) : Float := Number.ofSignBits false (Number.nearestBits (Nat.pow 10 n) 1)

/-- Multiplies a non-negative number by a power of ten. Nothing is the answer if the result is not
finite. -/
def scale (x : Float) (e : Int) : Option Float :=
  if 308 < e then if x == 0 then some x else none
  else if 0 ≤ e then
    let y := x * powerOfTen e.toNat
    if Number.isFinite y then some y else none
  else if -308 ≤ e then some (x / powerOfTen (-e).toNat)
  else if x == 0 then some x
  else scale (x / powerOfTen 308) (e + 308)
termination_by e.natAbs

/-- A floating-point number as a number of a document, if it is finite. -/
def floatNumber? (negative : Bool) (x : Float) : Option Number :=
  let y := if negative then -x else x
  if h : Number.isFinite y then some (.float y h) else none

/-- The number with a significand and an exponent. -/
def scaledNumber? (negative : Bool) (significand : Nat) (e : Int) : Option Number := do
  floatNumber? negative (← scale (Number.ofNatural false significand) e)

/-- The number that an integer part on its own denotes. A negative zero is a floating-point
number. -/
def wholeNumber? (negative : Bool) (ds : List Char) : Option Number :=
  let (n, more) := appendDigits 0 ds
  if !more.isEmpty then scaledNumber? negative n more.length
  else if negative then
    if 0 < n ∧ n ≤ Nat.pow 2 63 then some (.integer (.ofInt (-n)))
    else floatNumber? true (Number.ofNatural false n)
  else if n < Nat.pow 2 63 then some (.integer (.ofNat n))
  else if h : Nat.pow 2 63 ≤ (UInt64.ofNat n).toNat then some (.natural (.ofNat n) h) else none

/-- The number that all parts together denote: the digits in front of the point, those behind it,
and the exponent. -/
def decimalNumber? (negative : Bool) (whole fraction : List Char) (negativeExponent : Bool)
    (exponent : List Char) : Option Number :=
  let (n, more) := appendDigits 0 whole
  let (n, ignored) := appendDigits n fraction
  let e : Int := (more.length : Int) - (fraction.length - ignored.length : Nat)
  let x := ofDigits exponent
  if Nat.pow 2 31 ≤ x then
    if n ≠ 0 ∧ !negativeExponent then none else floatNumber? negative 0
  else scaledNumber? negative n (saturated (if negativeExponent then e - x else e + x))

/-- Splits off the digits at the front. -/
def spanDigits (cs : List Char) : List Char × List Char := cs.span isDigit

/-- Reads the exponent of a number: its sign and its digits. Without an exponent there are no
digits. -/
def readExponent? (cs : List Char) : Option (Bool × List Char × List Char) :=
  let signed := fun (negative : Bool) (cs : List Char) =>
    let (ds, rest) := spanDigits cs
    if ds.isEmpty then none else some (negative, ds, rest)
  let behindLetter := fun cs : List Char =>
    match cs with
    | '-' :: rest => signed true rest
    | '+' :: rest => signed false rest
    | rest => signed false rest
  match cs with
  | 'e' :: rest => behindLetter rest
  | 'E' :: rest => behindLetter rest
  | rest => some (false, [], rest)

/-- Reads the fraction of a number. Without a fraction there are no digits. -/
def readFraction? : List Char → Option (List Char × List Char)
  | '.' :: rest =>
    let (ds, rest) := spanDigits rest
    if ds.isEmpty then none else some (ds, rest)
  | rest => some ([], rest)

/-- Reads a number whose sign has been read. A leading zero stands alone in front of the point. -/
def readNumber? (negative : Bool) (cs : List Char) : Option (Number × List Char) := do
  let (whole, rest) := spanDigits cs
  if whole.isEmpty ∨ (whole.head? = some '0' ∧ 1 < whole.length) then none
  let (fraction, rest) ← readFraction? rest
  let (negativeExponent, exponent, rest) ← readExponent? rest
  let n ←
    if fraction.isEmpty ∧ exponent.isEmpty then wholeNumber? negative whole
    else decimalNumber? negative whole fraction negativeExponent exponent
  return (n, rest)

/-! ## Strings -/

/-- Reads four hexadecimal digits. -/
def readHexQuad? : List Char → Option (Nat × List Char)
  | a :: b :: c :: d :: rest => do
    return (0x1000 * (← hexValue? a) + 0x100 * (← hexValue? b) + 0x10 * (← hexValue? c)
      + (← hexValue? d), rest)
  | _ => none

/-- Reads the digits of an escaped code point. The first half of a surrogate pair is followed by
the second, and the second stands nowhere else. -/
def readCodePoint? (cs : List Char) : Option (Char × List Char) := do
  let (high, rest) ← readHexQuad? cs
  if 0xDC00 ≤ high ∧ high < 0xE000 then none
  if high < 0xD800 ∨ 0xE000 ≤ high then return (Char.ofNat high, rest)
  match rest with
  | '\\' :: 'u' :: rest =>
    let (low, rest) ← readHexQuad? rest
    if low < 0xDC00 ∨ 0xE000 ≤ low then none
    return (Char.ofNat (0x10000 + (high - 0xD800) * 0x400 + (low - 0xDC00)), rest)
  | _ => none

/-- Reads what follows a backslash. -/
def readEscape? : List Char → Option (Char × List Char)
  | '"' :: rest => some ('"', rest)
  | '\\' :: rest => some ('\\', rest)
  | '/' :: rest => some ('/', rest)
  | 'b' :: rest => some ('\x08', rest)
  | 'f' :: rest => some ('\x0c', rest)
  | 'n' :: rest => some ('\n', rest)
  | 'r' :: rest => some ('\r', rest)
  | 't' :: rest => some ('\t', rest)
  | 'u' :: rest => readCodePoint? rest
  | _ => none

/-- Reads a string behind its first quote. Each turn takes at least one character. -/
def readString? : (turns : Nat) → List Char → Option (List Char × List Char)
  | 0, _ => none
  | _, [] => none
  | _, '"' :: rest => some ([], rest)
  | turns + 1, '\\' :: rest => do
    let (c, rest) ← readEscape? rest
    let (cs, rest) ← readString? turns rest
    return (c :: cs, rest)
  | turns + 1, c :: rest => do
    if c < ' ' then none
    let (cs, rest) ← readString? turns rest
    return (c :: cs, rest)

/-- Reads a string behind its first quote. -/
def readText? (cs : List Char) : Option (String × List Char) := do
  let (text, rest) ← readString? (cs.length + 1) cs
  return (.ofList text, rest)

/-! ## Values -/

/-- Reads a value of some kind. -/
abbrev ValueReader := List Char → Option (Json × List Char)

/-- Reads the items of an array that follow the first, and the bracket behind them. -/
def readItems? (value : ValueReader) : (turns : Nat) → List Char → Option (List Json × List Char)
  | 0, _ => none
  | turns + 1, cs =>
    match skipBlanks cs with
    | ']' :: rest => some ([], rest)
    | ',' :: rest => do
      let (x, rest) ← value (skipBlanks rest)
      let (xs, rest) ← readItems? value turns rest
      return (x :: xs, rest)
    | _ => none

/-- Reads an array behind its first bracket. -/
def readArray? (value : ValueReader) (cs : List Char) : Option (Json × List Char) :=
  match skipBlanks cs with
  | ']' :: rest => some (array [], rest)
  | first => do
    let (x, rest) ← value first
    let (xs, rest) ← readItems? value (rest.length + 1) rest
    return (array (x :: xs), rest)

/-- Reads a member: a name, a colon and a value. -/
def readMember? (value : ValueReader) : List Char → Option ((String × Json) × List Char)
  | '"' :: rest => do
    let (name, rest) ← readText? rest
    match skipBlanks rest with
    | ':' :: rest =>
      let (x, rest) ← value (skipBlanks rest)
      return ((name, x), rest)
    | _ => none
  | _ => none

/-- Reads the members of an object that follow those read so far, and the brace behind them. -/
def readMembers? (value : ValueReader) (members : List (String × Json)) :
    (turns : Nat) → List Char → Option (List (String × Json) × List Char)
  | 0, _ => none
  | turns + 1, cs =>
    match skipBlanks cs with
    | '\x7d' :: rest => some (members, rest)
    | ',' :: rest => do
      let (m, rest) ← readMember? value (skipBlanks rest)
      readMembers? value (setMember m.1 m.2 members) turns rest
    | _ => none

/-- Reads an object behind its first brace. -/
def readObject? (value : ValueReader) (cs : List Char) : Option (Json × List Char) :=
  match skipBlanks cs with
  | '\x7d' :: rest => some (object [], rest)
  | first => do
    let (m, rest) ← readMember? value first
    let (ms, rest) ← readMembers? value [m] (rest.length + 1) rest
    return (object ms, rest)

/-- Reads a value that is no array and no object. -/
def readScalar? : List Char → Option (Json × List Char)
  | 'n' :: 'u' :: 'l' :: 'l' :: rest => some (null, rest)
  | 't' :: 'r' :: 'u' :: 'e' :: rest => some (bool true, rest)
  | 'f' :: 'a' :: 'l' :: 's' :: 'e' :: rest => some (bool false, rest)
  | '"' :: rest => (readText? rest).map fun r => (string r.1, r.2)
  | '-' :: rest => (readNumber? true rest).map fun r => (number r.1, r.2)
  | cs => (readNumber? false cs).map fun r => (number r.1, r.2)

/-- Reads a value with at most so many levels of arrays and objects. -/
def readValue? : (levels : Nat) → ValueReader
  | 0, cs => readScalar? cs
  | levels + 1, '[' :: rest => readArray? (readValue? levels) rest
  | levels + 1, '\x7b' :: rest => readObject? (readValue? levels) rest
  | _ + 1, cs => readScalar? cs

/-- The document that a text denotes. -/
def ofText? (text : String) : Option Json := do
  let (j, rest) ← readValue? maxDepth (skipBlanks text.toList)
  if (skipBlanks rest).isEmpty then return j else none

/-- The document that a text in UTF-8 denotes. -/
def ofBytes? (octets : ByteArray) : Option Json := do ofText? (← String.fromUTF8? octets)

end JsonPath.Json
