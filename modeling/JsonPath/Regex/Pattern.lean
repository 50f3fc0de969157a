import JsonPath.Regex.CharSet

/-!
# Patterns

A pattern is a regular expression in tree form, with its flags worked into its parts. It describes
which stretches of a text it matches. That a repetition prefers more or fewer turns, and that a
group is numbered, makes no difference to that; it is kept because the size of a pattern depends on
it.
-/

namespace JsonPath.Regex

open JsonPath.Unicode

/-! ## Conditions on a place -/

/-- A condition on a place between characters. The conditions about words are in terms of Unicode
or of the first 128 characters. -/
inductive Look where
  | textStart
  | textEnd
  | lineStart
  | lineEnd
  /-- the start of a line, where a carriage return ends one too -/
  | crlfLineStart
  | crlfLineEnd
  | wordBoundary (unicode : Bool)
  | notWordBoundary (unicode : Bool)
  | wordStart (unicode : Bool)
  | wordEnd (unicode : Bool)
  /-- no character of a word in front -/
  | wordStartHalf (unicode : Bool)
  /-- no character of a word behind -/
  | wordEndHalf (unicode : Bool)
deriving Repr, DecidableEq

/-- Whether a character, if there is one, belongs to a word. -/
def inWord (unicode : Bool) (c : Option Char) : Bool :=
  c.any fun c => if unicode then isWordChar c else CharSet.latinWord.contains c

/-- Whether the condition holds between two characters, either of which is missing at an end of the
text. -/
def Look.holds : Look → (before after : Option Char) → Bool
  | textStart, before, _ => before.isNone
  | textEnd, _, after => after.isNone
  | lineStart, before, _ => before.all (· == '\n')
  | lineEnd, _, after => after.all (· == '\n')
  | crlfLineStart, before, after =>
    before.all (· == '\n') || before == some '\r' && after != some '\n'
  | crlfLineEnd, before, after =>
    after.all (· == '\r') || after == some '\n' && before != some '\r'
  | wordBoundary u, before, after => inWord u before != inWord u after
  | notWordBoundary u, before, after => inWord u before == inWord u after
  | wordStart u, before, after => !inWord u before && inWord u after
  | wordEnd u, before, after => inWord u before && !inWord u after
  | wordStartHalf u, before, _ => !inWord u before
  | wordEndHalf u, _, after => !inWord u after

/-! ## The tree -/

/-- A regular expression. -/
inductive Pattern where
  /-- the empty text -/
  | empty
  /-- a change of flags, which matches the empty text and cannot be repeated -/
  | setting
  /-- one character of a set -/
  | one (s : CharSet)
  /-- one character of a class in brackets, with the depth to which its parts are nested -/
  | bracket (s : CharSet) (nesting : Nat)
  /-- the empty text where a condition holds -/
  | look (l : Look)
  /-- one pattern after the other -/
  | sequence (ps : List Pattern)
  /-- any of the patterns -/
  | choice (ps : List Pattern)
  /-- a number of turns between bounds, of which the upper may be missing; an eager repetition
  prefers many turns -/
  | repetition (p : Pattern) (least : Nat) (most : Option Nat) (eager : Bool)
  /-- a pattern in parentheses, with its number if its match can be asked for -/
  | group (number : Option Nat) (p : Pattern)

namespace Pattern

instance : Inhabited Pattern := ⟨empty⟩

/-- Patterns in sequence. -/
def ofSequence : List Pattern → Pattern
  | [] => empty
  | [p] => p
  | ps => sequence ps

/-- Patterns to choose from. -/
def ofChoice : List Pattern → Pattern
  | [] => empty
  | [p] => p
  | ps => choice ps

/-- Whether a repetition may follow. -/
def isRepeatable : Pattern → Bool
  | empty => false
  | setting => false
  | _ => true

/-! ## Nesting -/

mutual

/-- The depth to which the parts of a pattern are nested. -/
def nesting : Pattern → Nat
  | bracket _ n => n + 1
  | sequence ps => maxNesting ps + 1
  | choice ps => maxNesting ps + 1
  | repetition p _ _ _ => p.nesting + 1
  | group _ p => p.nesting + 1
  | _ => 0

/-- The greatest depth of nesting. -/
def maxNesting : List Pattern → Nat
  | [] => 0
  | p :: ps => max p.nesting (maxNesting ps)

end

/-- The deepest nesting of parts. -/
def maxDepth : Nat := 250

end Pattern

end JsonPath.Regex
