import JsonPath.Regex.Pattern

/-!
# Matching

Where a stretch of text that a pattern matches may end depends on where it may start. A set of
places in a text is a natural number whose bits say which places belong to it, the start of the text
as the lowest. A pattern takes a set of starts to the set of ends: a character moves the places in
front of it by one, a condition keeps the places where it holds, a sequence goes from one pattern to
the next, and a repetition adds ends until nothing new is found. Nothing is ever tried twice, so
matching ends whatever the pattern, and no order of alternatives matters.

For a given text a pattern becomes a `Plan`, in which each set of characters and each condition is
replaced by the places it fits.
-/

namespace JsonPath.Regex

/-- A set of places in a text. -/
abbrev Places := Nat

/-- The set of the places marked in a list. -/
def Places.ofMarks : List Bool → Places
  | [] => 0
  | b :: bs => b.toNat + 2 * ofMarks bs

/-- The places between characters where a condition holds; `before` is the character in front of
the first. -/
def marksOf (l : Look) (before : Option Char) : List Char → List Bool
  | [] => [l.holds before none]
  | c :: cs => l.holds before (some c) :: marksOf l (some c) cs

/-- A pattern for one text. -/
inductive Plan where
  /-- the empty text -/
  | stay
  /-- one of the characters that stand at the given places -/
  | take (at_ : Places)
  /-- the empty text at the given places -/
  | keep (at_ : Places)
  | andThen (p q : Plan)
  | orElse (p q : Plan)
  /-- so many turns, and any number of further ones up to a bound -/
  | turns (p : Plan) (least extra : Nat)
deriving Repr, DecidableEq

namespace Plan

/-- Takes a step a number of times; when nothing changes any more, further steps are spared. -/
def iterate (step : Places → Places) : Nat → Places → Places
  | 0, s => s
  | n + 1, s => if step s = s then s else iterate step n (step s)

/-- Adds what a step leads to, a number of times, until nothing new is found. -/
def grow (step : Places → Places) : Nat → Places → Places
  | 0, s => s
  | n + 1, s => if s ||| step s = s then s else grow step n (s ||| step s)

/-- The ends that belong to a set of starts. -/
def ends : Plan → Places → Places
  | stay, s => s
  | take here, s => (s &&& here) <<< 1
  | keep here, s => s &&& here
  | andThen p q, s => q.ends (p.ends s)
  | orElse p q, s => p.ends s ||| q.ends s
  | turns p least extra, s => grow p.ends extra (iterate p.ends least s)

end Plan

namespace Pattern

mutual

/-- The plan of a pattern for a text. Without an upper bound, a repetition need not take more turns
than there are places. -/
def plan (text : List Char) : Pattern → Plan
  | empty => .stay
  | setting => .stay
  | one s => .take (.ofMarks (text.map s.contains))
  | bracket s _ => .take (.ofMarks (text.map s.contains))
  | look l => .keep (.ofMarks (marksOf l none text))
  | sequence ps => planSequence text ps
  | choice ps => planChoice text ps
  | repetition p least most _ =>
    .turns (p.plan text) least (match most with
      | some n => n - least
      | none => text.length + 1)
  | group _ p => p.plan text

/-- The plan of patterns in sequence. -/
def planSequence (text : List Char) : List Pattern → Plan
  | [] => .stay
  | p :: ps => .andThen (p.plan text) (planSequence text ps)

/-- The plan of patterns to choose from. -/
def planChoice (text : List Char) : List Pattern → Plan
  | [] => .keep 0
  | p :: ps => .orElse (p.plan text) (planChoice text ps)

end

/-- Whether the pattern matches some stretch of a text. -/
def isMatch (p : Pattern) (text : List Char) : Bool :=
  (p.plan text).ends (Nat.pow 2 (text.length + 1) - 1) != 0

end Pattern

end JsonPath.Regex
