import JsonPath.Unicode.Fold
import JsonPath.Unicode.Letter

/-!
# Sets of characters

The set that one element of a regular expression matches, and the operations of a bracketed class.
A set is kept as the ranges of its code points, so that equal sets are the same value and the size
of a set can be told.
-/

namespace JsonPath.Regex

open JsonPath.Text JsonPath.Unicode

/-- A set of characters. -/
structure CharSet where
  ranges : Ranges
deriving Repr, DecidableEq

/-- The Latin letter of the other case; any other character is its own. -/
def otherCase (c : Char) : Char :=
  if 'a' ≤ c ∧ c ≤ 'z' then Char.ofNat (c.toNat - 32)
  else if 'A' ≤ c ∧ c ≤ 'Z' then Char.ofNat (c.toNat + 32)
  else c

namespace CharSet

/-- Membership. -/
def contains (s : CharSet) (c : Char) : Bool := s.ranges.contains c.toNat

/-- No character. -/
def none : CharSet := ⟨[]⟩

/-- Every character. -/
def any : CharSet := ⟨[(0, lastCodePoint)]⟩

/-- The characters from one code point to another. -/
def range (low high : Nat) : CharSet := ⟨[(low, high)]⟩

/-- One character. -/
def char (c : Char) : CharSet := range c.toNat c.toNat

@[simp] theorem contains_char (c d : Char) : (char c).contains d = (d == c) := by
  simp only [char, range, contains, Ranges.contains_cons, Ranges.contains_nil, Bool.or_false]
  by_cases h : d = c
  · simp [h]
  · have hne : d.toNat ≠ c.toNat := fun e => h (Char.toNat_inj.1 e)
    rw [beq_false_of_ne h]
    simp only [Bool.and_eq_false_iff, decide_eq_false_iff_not, Nat.not_le]
    omega

/-! ## Operations -/

/-- What is in either set. -/
def union (s t : CharSet) : CharSet := ⟨s.ranges.union t.ranges⟩

/-- What is in any of several sets. -/
def unions (ss : List CharSet) : CharSet := ⟨.unions (ss.map ranges)⟩

/-- What is in both sets. -/
def intersection (s t : CharSet) : CharSet := ⟨s.ranges.intersection t.ranges⟩

/-- What is in the first set and not in the second. -/
def difference (s t : CharSet) : CharSet := ⟨s.ranges.difference t.ranges⟩

/-- What is in one of the sets and not in the other. -/
def symmetricDifference (s t : CharSet) : CharSet := ⟨s.ranges.symmetricDifference t.ranges⟩

/-- What is not in the set. -/
def complement (s : CharSet) : CharSet := ⟨s.ranges.complement⟩

/-- The complement of a set, if it is to be negated. -/
def negatedIf (negated : Bool) (s : CharSet) : CharSet := if negated then s.complement else s

/-- What equals a member without regard to case. -/
def folded (s : CharSet) : CharSet := ⟨s.ranges.folded⟩

/-- What equals a member without regard to the case of Latin letters. -/
def foldedLatin (s : CharSet) : CharSet :=
  let raised := s.intersection (range 'a'.toNat 'z'.toNat)
  let lowered := s.intersection (range 'A'.toNat 'Z'.toNat)
  unions [s, ⟨raised.ranges.map fun r => (r.1 - 32, r.2 - 32)⟩,
    ⟨lowered.ranges.map fun r => (r.1 + 32, r.2 + 32)⟩]

/-- A union has the characters of all sets. -/
@[simp] theorem contains_unions (ss : List CharSet) (c : Char) :
    (unions ss).contains c = ss.any fun s => s.contains c := by
  unfold unions contains
  rw [Ranges.contains_unions, List.any_map]
  rfl

/-- An intersection has the characters that are in both sets. -/
@[simp] theorem contains_intersection (s t : CharSet) (c : Char) :
    (s.intersection t).contains c = (s.contains c && t.contains c) :=
  Ranges.contains_intersection ..

/-! ## Tests -/

/-- The only member of a set, if it has just one. -/
def single? (s : CharSet) : Option Char :=
  match s.ranges with
  | [(low, high)] => if low = high then some (Char.ofNat low) else Option.none
  | _ => Option.none

/-- Whether the set has no character beyond the first 128. -/
def isNarrow (s : CharSet) : Bool := s.ranges.all fun r => r.2 < 0x80

/-! ## Sets of Latin characters -/

/-- Ranges between pairs of characters. -/
def pairs (ps : List (Char × Char)) : CharSet := ⟨ps.map fun p => (p.1.toNat, p.2.toNat)⟩

/-- The digits of the first 128 characters. -/
def latinDigit : CharSet := pairs [('0', '9')]

/-- The blanks of the first 128 characters. -/
def latinSpace : CharSet := pairs [('\t', '\r'), (' ', ' ')]

/-- The characters of words among the first 128. -/
def latinWord : CharSet := pairs [('0', '9'), ('A', 'Z'), ('_', '_'), ('a', 'z')]

/-- The classes that are named between `[:` and `:]`. -/
def latinClass? : String → Option CharSet
  | "alnum" => some (pairs [('0', '9'), ('A', 'Z'), ('a', 'z')])
  | "alpha" => some (pairs [('A', 'Z'), ('a', 'z')])
  | "ascii" => some (pairs [('\x00', '\x7f')])
  | "blank" => some (pairs [('\t', '\t'), (' ', ' ')])
  | "cntrl" => some (pairs [('\x00', '\x1f'), ('\x7f', '\x7f')])
  | "digit" => some latinDigit
  | "graph" => some (pairs [('!', '~')])
  | "lower" => some (pairs [('a', 'z')])
  | "print" => some (pairs [(' ', '~')])
  | "punct" => some (pairs [('!', '/'), (':', '@'), ('[', '`'), ('\x7b', '~')])
  | "space" => some latinSpace
  | "upper" => some (pairs [('A', 'Z')])
  | "word" => some latinWord
  | "xdigit" => some (pairs [('0', '9'), ('A', 'F'), ('a', 'f')])
  | _ => Option.none

end CharSet

end JsonPath.Regex
