import JsonPath.Regex.CharSet
import JsonPath.Regex.Slots
import JsonPath.Unicode.Utf8

/-!
# The size of a machine

A machine that looks for a regular expression reads a text octet by octet and goes from state to
state. Its states are numbered in the order in which they are built. Each takes some room, and more
if there are several ways to go on: for each range of octets that leads on, and for each state that
it may go on with. A machine that is larger than `Size.limit` is not built.

The second half counts the states for a set of characters. Forwards, the sequences of octets in the
set share the states for what they end with; backwards, those for what they start with. In both
cases a state that is needed again is found in a table (`Slots`), unless a newer state has taken its
slot.
-/

namespace JsonPath.Regex

open JsonPath.Unicode

/-! ## Sizes -/

/-- How many states were built, and how many octets of memory their ways to go on take. -/
structure Size where
  states : Nat
  ways : Nat
deriving Repr, DecidableEq

namespace Size

/-- Nothing built. -/
def zero : Size := ⟨0, 0⟩

/-- More states. -/
def grow (count : Nat) (z : Size) : Size := { z with states := z.states + count }

/-- More states that some state may go on with. -/
def link (count : Nat) (z : Size) : Size := { z with ways := z.ways + 4 * count }

/-- More ranges of octets that lead on. -/
def branch (count : Nat) (z : Size) : Size := { z with ways := z.ways + 8 * count }

/-- The octets of memory in all. -/
def memory (z : Size) : Nat := 32 * z.states + z.ways

/-- The most memory that a machine may take, which is ten times two to the twentieth. -/
def limit : Nat := 10 * 1024 * 1024

/-- Whether the limit is passed. -/
def isExcessive (z : Size) : Bool := limit < z.memory

end Size

/-! ## States that are found again -/

/-- A machine in the making: its size, and the numbers of states that can be found again, each with
the numbers that determine it. -/
structure Assembly where
  size : Size
  known : Slots (List Nat × Nat)

namespace Assembly

/-- A machine of some size, none of whose states can be found again. -/
def start (z : Size) : Assembly := ⟨z, .vacant⟩

/-- The hash value of a list of numbers. Each number is mixed in and the whole multiplied by a
prime. -/
def hash (key : List Nat) : UInt64 :=
  key.foldl (fun h n => (h ^^^ n.toUInt64) * 1099511628211) 14695981039346656037

/-- The state for a key, in a table with so many slots. If it is not found, it is built, with so many
ranges that lead on from it, and put into its slot. -/
def state (slots ranges : Nat) (key : List Nat) (a : Assembly) : Nat × Assembly :=
  let digits := slots.log2 + 1
  let slot := (hash key).toNat % slots
  let built : Nat × Assembly :=
    (a.size.states, ⟨(a.size.grow 1).branch ranges, a.known.put (key, a.size.states) digits slot⟩)
  match a.known.get? digits slot with
  | some (k, n) => if k = key then (n, a) else built
  | none => built

/-! ## Forwards -/

/-- The number of slots for states that read forwards. -/
def forwardSlots : Nat := 10000

/-- Sequences in groups of neighbours that start with the same range: the range, and what follows
it. -/
def groups : List OctetRanges → List ((Nat × Nat) × List OctetRanges)
  | [] => []
  | [] :: qs => groups qs
  | (r :: rest) :: qs =>
    match groups qs with
    | (s, rests) :: gs =>
      if r = s then (r, rest :: rests) :: gs else (r, [rest]) :: (s, rests) :: gs
    | [] => [(r, [rest])]

/-- The state from which sequences of a greatest length lead to a target. -/
def node (target : Nat) : (length : Nat) → List OctetRanges → Assembly → Nat × Assembly
  | 0, _, a => (target, a)
  | length + 1, qs, a =>
    match groups qs with
    | [] => (target, a)
    | gs =>
      let (key, a) := gs.foldl (fun (key, a) g =>
        let (n, a) := node target length g.2 a
        (key ++ [g.1.1, g.1.2, n], a)) ([], a)
      a.state forwardSlots gs.length key

/-- The size with a machine for sequences of octets, which ends in one state. -/
def forwards (qs : List OctetRanges) (z : Size) : Size :=
  (node z.states 4 qs (.start (z.grow 1))).2.size

/-! ## Backwards -/

/-- The number of slots for states that read backwards. -/
def backwardSlots : Nat := 1000

/-- The state from which a sequence, read from its end, leads to a target. -/
def chain (a : Assembly) (target : Nat) : OctetRanges → Nat × Assembly
  | [] => (target, a)
  | r :: q =>
    let (n, a) := a.state backwardSlots 0 [target, r.1, r.2]
    chain a n q

/-- The size with a machine for sequences of octets that are read from their ends. It starts in a
state that goes on with any of the sequences, and ends in one state. -/
def backwards (qs : List OctetRanges) (z : Size) : Size :=
  let target := z.states + 1
  let a := qs.foldl (fun a q => (chain a target q).2) (.start (z.grow 2))
  a.size.link qs.length

end Assembly

/-- The size with a machine for one character of a set. If all are among the first 128, a state with
one range of octets for each range of them leads to the last state. -/
def CharSet.size (backward : Bool) (s : CharSet) (z : Size) : Size :=
  if s.isNarrow then (z.grow 2).branch s.ranges.length
  else if backward then Assembly.backwards (s.ranges.flatMap octetRanges) z
  else Assembly.forwards (s.ranges.flatMap octetRanges) z

end JsonPath.Regex
