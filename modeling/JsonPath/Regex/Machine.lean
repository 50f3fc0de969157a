import JsonPath.Regex.Size
import JsonPath.Regex.Term

/-!
# Machines for terms

The machine for a term is built part by part, and only its size is kept here. A part starts in one
state and ends in one state. If the end is a *fork*, a state with several ways to go on, the way to
the part behind it is one more of them and takes room; any other state has its one way for free.

For every term two machines are built: one that reads the text forwards and notes where groups
start and end, and one that reads it backwards and does not. A term is admissible if neither is too
large (`Term.isAdmissible`).
-/

namespace JsonPath.Regex

open JsonPath.Unicode

/-- What was built so far, and whether its end is a fork. -/
structure Built where
  size : Size
  forks : Bool

/-- The size with the way from the end to a part behind it. -/
def Built.entered (b : Built) : Size := b.size.link b.forks.toNat

/-- Something whose end is no fork. -/
def Built.plain (z : Size) : Built := ⟨z, false⟩

/-- Something whose end is a fork. -/
def Built.fork (z : Size) : Built := ⟨z, true⟩

/-- How a part is built behind what was built so far. -/
abbrev Meter := Built → Built

namespace Meter

/-- States that each have one way to go on. -/
def states (count : Nat) : Meter := fun b => .plain (b.entered.grow count)

/-- A part between a state in front and a state behind it. -/
def enclosed (p : Meter) : Meter := fun b => states 1 (p (states 1 b))

/-! ## Repetitions -/

/-- A number of copies. A repetition may ask for far too many; nothing more is built when the limit
is passed. -/
def copies (p : Meter) : (count : Nat) → Meter
  | 0, b => b
  | n + 1, b => if b.size.isExcessive then b else copies p n (p b)

/-- An exact number of turns; for none there is one state. -/
def exactly (p : Meter) (count : Nat) : Meter := if count = 0 then states 1 else copies p count

/-- At most one turn: a fork leads into the part and past it. -/
def optional (p : Meter) : Meter := fun b =>
  let c := p (.fork (b.entered.grow 1))
  .plain ((c.entered.grow 1).link 1)

/-- Any number of turns of a part that does not match the empty text: a fork leads into the part,
which leads back. -/
def loop (p : Meter) : Meter := fun b =>
  let c := p (.fork (b.entered.grow 1))
  .fork c.entered

/-- Any number of turns of a part that may match the empty text: behind the part a fork leads back
or on, and in front of it a fork leads in or on. -/
def openLoop (p : Meter) : Meter := fun b =>
  let c := p (.plain b.entered)
  .plain ((c.entered.grow 3).link 4)

/-- At least one turn: behind the part a fork leads back. -/
def atLeastOnce (p : Meter) : Meter := fun b =>
  let c := p b
  .fork ((c.entered.grow 1).link 1)

/-- At most a number of further turns, each behind a fork that leads to the end as well. -/
def further (p : Meter) (count : Nat) : Meter := fun b =>
  let turn : Meter := fun b =>
    let c := p (.fork (b.entered.grow 1))
    { c with size := c.size.link 1 }
  .plain (copies turn count { b with size := b.size.grow 1 }).entered

/-- Turns between bounds. A part is solid if it does not match the empty text. -/
def turns (p : Meter) (solid : Bool) : (least : Nat) → (most : Option Nat) → Meter
  | 0, some 1 => optional p
  | 0, none => if solid then loop p else openLoop p
  | n + 1, none => fun b => atLeastOnce p (copies p n b)
  | m, some n =>
    if m = n then exactly p m else fun b => further p (n - m) (exactly p m b)

/-! ## Choices -/

/-- One of several parts, to which a fork leads and all of which lead to one state. The fork and
that state are built behind the second part. -/
def choice : List Meter → Meter
  | p :: q :: ps => fun b =>
    let branch := fun (z : Size) (p : Meter) => (p (.plain z)).entered.link 1
    .plain (ps.foldl branch ((branch (branch b.entered p) q).grow 2))
  | [p] => p
  | [] => states 1

end Meter

/-! ## Choices of texts

A choice between texts only is built as a tree, in which texts share the states for what they start
with. A text that ends where others go on divides these into those in front of it and those behind
it, which share nothing. -/

/-- Words by their first octets: the octet, and what follows it. -/
def byFirstOctet : List (List Nat) → List (Nat × List (List Nat))
  | [] => []
  | [] :: ws => byFirstOctet ws
  | (c :: w) :: ws => insert c w (byFirstOctet ws)
where
  /-- Puts what follows an octet in front of what else follows it. -/
  insert (c : Nat) (w : List Nat) : List (Nat × List (List Nat)) → List (Nat × List (List Nat))
    | [] => [(c, [w])]
    | (d, ws) :: gs => if c = d then (d, w :: ws) :: gs else (d, ws) :: insert c w gs

/-- Words in groups, between which stand the words that are empty. -/
def betweenEmpty : List (List Nat) → List (List (List Nat))
  | [] => [[]]
  | [] :: ws => [] :: betweenEmpty ws
  | w :: ws =>
    match betweenEmpty ws with
    | [] => [[w]]
    | g :: gs => (w :: g) :: gs

/-- The size with a tree of words of a greatest length. Several empty words in front of all others
count as one. -/
def treeSize : (length : Nat) → List (List Nat) → Size → Size
  | 0, _, z => z
  | length + 1, ws, z =>
    if ws.all (·.isEmpty) then z
    else
      let ws := if ws.head?.any (·.isEmpty) then [] :: ws.dropWhile (·.isEmpty) else ws
      let groups := (betweenEmpty ws).map byFirstOctet
      let z := groups.foldl (fun z g => g.foldl (fun z e => treeSize length e.2 z) z) z
      let z := groups.foldl (fun z g => match g with
        | [] => z
        | [_] => (z.grow 1).link 1
        | _ => ((z.grow 1).branch g.length).link 1) z
      (z.grow 1).link (groups.length - 1)

/-- A choice between words. -/
def Meter.words (ws : List (List Nat)) : Meter := fun b =>
  .plain (treeSize (ws.foldl (fun n w => max n w.length) 0) ws (b.entered.grow 1))

namespace Term

/-- The texts of a choice between texts only. -/
def texts? : Term → Option (List (List Char))
  | text cs => some [cs]
  | orElse (text cs) u => u.texts?.map (cs :: ·)
  | _ => none

/-- The octets of a text in the order in which they are read. -/
def readOctets (backward : Bool) (cs : List Char) : List Nat :=
  let bytes := cs.flatMap fun c => octets c.toNat
  if backward then bytes.reverse else bytes

/-- How a term is built, and how its branches are. -/
def meters (backward : Bool) : Term → Meter × List Meter
  | empty => alone (.states 1)
  | text cs => alone (.states (readOctets backward cs).length)
  | set s => alone fun b => .plain (s.size backward b.entered)
  | look _ => alone (.states 1)
  | turns t least most _ => alone (.turns (t.meters backward).1 t.isSolid least most)
  | capture _ t =>
    let p := (t.meters backward).1
    alone (if backward then p else p.enclosed)
  | andThen t u =>
    let p := (t.meters backward).1
    let q := (u.meters backward).1
    alone (if backward then p ∘ q else q ∘ p)
  | orElse t u =>
    let ps := (t.meters backward).1 :: (u.meters backward).2
    match (orElse t u).texts? with
    | some texts => (.words (texts.map (readOctets backward)), ps)
    | none => (.choice ps, ps)
where
  /-- A term without branches is the only one of its own. -/
  alone (p : Meter) : Meter × List Meter := (p, [p])

/-! ## Limits -/

/-- The size of what stands in front of a term. If a match may start anywhere, this is a loop over
all octets, a fork and a state with one range that leads to a third. -/
def entrySize (bound : Bool) : Size :=
  if bound then Size.zero.grow 1 else ((Size.zero.grow 3).branch 1).link 2

/-- The size of the machine that reads forwards. The whole match is a group. -/
def forwardSize (t : Term) : Size :=
  (Meter.states 1 ((t.meters false).1.enclosed (.plain (entrySize t.isBoundLeft)))).size

/-- The size of the machine that reads backwards. -/
def backwardSize (t : Term) : Size :=
  (Meter.states 1 ((t.meters true).1 (.plain (entrySize t.isBoundRight)))).size

/-- Whether the machines for the term are within the limit. -/
def isAdmissible (t : Term) : Bool := !t.forwardSize.isExcessive && !t.backwardSize.isExcessive

end Term

end JsonPath.Regex
