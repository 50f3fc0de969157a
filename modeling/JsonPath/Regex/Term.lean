import JsonPath.Regex.Pattern

/-!
# Terms

A term is a pattern in simple form, from which a machine is built. Groups that have no number are
gone; neighbouring characters are one text; what stands in sequence or to choose from is one chain;
a choice of characters is a set; and what all branches of a choice start with stands in front of it.
`Pattern.term` brings a pattern into this form. The functions that build terms keep to it: a chain
of `andThen` is nested to the right, and none of its links is a chain of the same kind, or empty.
-/

namespace JsonPath.Regex

/-- A pattern in simple form. -/
inductive Term where
  | empty
  /-- characters one after the other, at least one -/
  | text (cs : List Char)
  /-- one character of a set -/
  | set (s : CharSet)
  | look (l : Look)
  | turns (t : Term) (least : Nat) (most : Option Nat) (eager : Bool)
  /-- a group whose match can be asked for by its number -/
  | capture (number : Nat) (t : Term)
  | andThen (t u : Term)
  | orElse (t u : Term)
deriving Repr, DecidableEq

namespace Term

/-! ## Lengths -/

/-- The least number of characters that are matched, unless some part matches nothing at all. -/
def shortest? : Term → Option Nat
  | empty => some 0
  | text cs => some cs.length
  | set s => if s.ranges.isEmpty then none else some 1
  | look _ => some 0
  | turns t least _ _ => t.shortest?.map (least * ·)
  | capture _ t => t.shortest?
  | andThen t u => do return (← t.shortest?) + (← u.shortest?)
  | orElse t u => do return min (← t.shortest?) (← u.shortest?)

/-- The greatest number of characters that are matched, if there is one. -/
def longest? : Term → Option Nat
  | empty => some 0
  | text cs => some cs.length
  | set s => if s.ranges.isEmpty then none else some 1
  | look _ => some 0
  | turns t _ most _ => do return (← most) * (← t.longest?)
  | capture _ t => t.longest?
  | andThen t u => do return (← t.longest?) + (← u.longest?)
  | orElse t u => do return max (← t.longest?) (← u.longest?)

/-- Whether the term matches the empty text only. -/
def isBlank (t : Term) : Bool := t.longest? == some 0

/-- Whether the term never matches the empty text. -/
def isSolid (t : Term) : Bool := t.shortest?.any (0 < ·)

/-! ## Ends of the text -/

/-- Whether the term matches at the start of the text only. -/
def isBoundLeft : Term → Bool
  | look .textStart => true
  | turns t least _ _ => 0 < least && t.isBoundLeft
  | capture _ t => t.isBoundLeft
  | andThen t u => t.isBoundLeft || t.isBlank && u.isBoundLeft
  | orElse t u => t.isBoundLeft && u.isBoundLeft
  | _ => false

/-- Whether the term matches at the end of the text only. -/
def isBoundRight : Term → Bool
  | look .textEnd => true
  | turns t least _ _ => 0 < least && t.isBoundRight
  | capture _ t => t.isBoundRight
  | andThen t u => u.isBoundRight || u.isBlank && t.isBoundRight
  | orElse t u => t.isBoundRight && u.isBoundRight
  | _ => false

/-! ## Chains -/

/-- What stands in sequence. -/
def links : Term → List Term
  | empty => []
  | andThen t u => t :: u.links
  | t => [t]

/-- What there is to choose from. -/
def branches : Term → List Term
  | orElse t u => t :: u.branches
  | t => [t]

/-- The term for a chain of links. -/
def ofLinks : List Term → Term
  | [] => empty
  | [t] => t
  | t :: ts => andThen t (ofLinks ts)

/-- The term for a chain of branches, of which there is at least one. -/
def ofBranches : List Term → Term
  | [] => set .none
  | [t] => t
  | t :: ts => orElse t (ofBranches ts)

/-- Makes one text of neighbouring texts. -/
def joinTexts : List Term → List Term
  | [] => []
  | text cs :: ts =>
    match joinTexts ts with
    | text ds :: us => text (cs ++ ds) :: us
    | us => text cs :: us
  | t :: ts => t :: joinTexts ts

/-! ## Building terms -/

/-- One character of a set. -/
def ofSet (s : CharSet) : Term :=
  match s.single? with
  | some c => text [c]
  | none => set s

/-- Terms in sequence. -/
def inSequence (ts : List Term) : Term := ofLinks (joinTexts (ts.flatMap links))

/-- A number of turns. What matches the empty text only is taken once at most. -/
def repeated (t : Term) (least : Nat) (most : Option Nat) (eager : Bool) : Term :=
  let (least, most) :=
    if t.isBlank then (min least 1, some (min (most.getD 1) 1)) else (least, most)
  if most = some 0 then empty
  else if least = 1 ∧ most = some 1 then t
  else turns t least most eager

/-- The set that a choice of characters or a choice of sets amounts to. -/
def merged? (ts : List Term) : Option CharSet :=
  let letters := ts.mapM fun t => match t with
    | text [c] => some (CharSet.char c)
    | _ => none
  let sets := ts.mapM fun t => match t with
    | set s => some s
    | _ => none
  (letters <|> sets).map .unions

/-- What two lists start with. -/
def sharedStart : List Term → List Term → List Term
  | t :: ts, u :: us => if t = u then t :: sharedStart ts us else []
  | _, _ => []

/-- The links that all branches start with, if all of them are chains. -/
def sharedLinks : List Term → List Term
  | [] => []
  | [andThen t u] => (andThen t u).links
  | andThen t u :: ts => sharedStart (andThen t u).links (sharedLinks ts)
  | _ => []

/-- The number of parts. -/
def weight : Term → Nat
  | turns t _ _ _ => t.weight + 1
  | capture _ t => t.weight + 1
  | andThen t u => t.weight + u.weight + 1
  | orElse t u => t.weight + u.weight + 1
  | _ => 1

/-- Terms to choose from. What all of them start with comes first; behind it, there is a choice
between the rests, each of which has fewer parts. Each turn takes at least one part away. -/
def choiceWithin : (turns : Nat) → List Term → Term
  | n, ts =>
    match ts.flatMap branches with
    | [] => set .none
    | [t] => t
    | ts =>
      match merged? ts, sharedLinks ts, n with
      | some s, _, _ => ofSet s
      | none, t :: shared, n + 1 =>
        let rests := ts.map fun u => inSequence (u.links.drop (shared.length + 1))
        inSequence (t :: shared ++ [choiceWithin n rests])
      | none, _, _ => ofBranches ts

/-- Terms to choose from. -/
def choice (ts : List Term) : Term := choiceWithin (ts.foldl (fun n t => n + t.weight) 0) ts

end Term

namespace Pattern

mutual

/-- The simple form of a pattern. -/
def term : Pattern → Term
  | empty => .empty
  | setting => .empty
  | one s => .ofSet s
  | bracket s _ => .ofSet s
  | look l => .look l
  | sequence ps => .inSequence (terms ps)
  | choice ps => .choice (terms ps)
  | repetition p least most eager => p.term.repeated least most eager
  | group none p => p.term
  | group (some n) p => .capture n p.term

/-- The simple forms of several patterns. -/
def terms : List Pattern → List Term
  | [] => []
  | p :: ps => p.term :: terms ps

end

end Pattern

end JsonPath.Regex
