import JsonPath.Regex.Escape

/-!
# Classes in brackets

A class in brackets lists characters, ranges and other classes. Lists of them may be joined by the
operators `&&`, `--` and `~~`, all of which group to the left. A caret behind the opening bracket
takes the complement, after case has been made to matter or not.

Classes inside a class are kept on a stack of levels, the innermost first.
-/

namespace JsonPath.Regex

open JsonPath.Text JsonPath.Unicode

/-- An operator between lists of a class. -/
inductive SetOperator where
  | intersection
  | difference
  | symmetricDifference
deriving Repr, DecidableEq

/-- Joins two sets. -/
def SetOperator.apply : SetOperator → CharSet → CharSet → CharSet
  | intersection => .intersection
  | difference => .difference
  | symmetricDifference => .symmetricDifference

/-- A part of a class: its set, and the depth to which its own parts are nested. -/
structure Part where
  set : CharSet
  nesting : Nat
deriving Repr, DecidableEq

namespace Part

/-- A part without parts. -/
def leaf (s : CharSet) : Part := ⟨s, 0⟩

/-- The parts of a list, the last one first, as one. -/
def ofList : List Part → Part
  | [] => leaf .none
  | [p] => p
  | ps => ⟨.unions (ps.reverse.map set), ps.foldl (fun n p => max n p.nesting) 0 + 1⟩

/-- Two parts with an operator between them. -/
def join (fl : Flags) (op : SetOperator) (p q : Part) : Part :=
  ⟨op.apply (fl.fold p.set) (fl.fold q.set), max p.nesting q.nesting + 1⟩

end Part

/-- A class that has been opened: whether its complement is meant, what stands in front of the last
operator, and the list behind it, the last part first. -/
structure Level where
  negated : Bool
  left : Option (Part × SetOperator)
  items : List Part
deriving Repr, DecidableEq

namespace Level

/-- The level with one more part. -/
def add (l : Level) (p : Part) : Level := { l with items := p :: l.items }

/-- Everything in the level so far. -/
def whole (fl : Flags) (l : Level) : Part :=
  match l.left with
  | some (p, op) => p.join fl op (.ofList l.items)
  | none => .ofList l.items

/-- The level behind an operator. -/
def operator (fl : Flags) (op : SetOperator) (l : Level) : Level :=
  { l with left := some (l.whole fl, op), items := [] }

/-- The class when it is closed. In terms of the first 128 characters, a class may not reach beyond
them. -/
def close? (fl : Flags) (l : Level) : Option Part := do
  let p := l.whole fl
  let s := CharSet.negatedIf l.negated (fl.fold p.set)
  if fl.unicode || s.isNarrow then return ⟨s, p.nesting⟩ else none

end Level

/-! ## Items -/

/-- The set of one character. In terms of the first 128 characters, it is one of them. -/
def charSet? (fl : Flags) (c : Char) : Option CharSet :=
  if fl.unicode || c < '\x80' then some (.char c) else none

/-- Reads a character or an escape. -/
def item? (fl : Flags) : List Char → Option (Element × List Char)
  | [] => none
  | c :: cs => if c == '\\' then escape? fl cs else some (.literal c, cs)

/-- The set of an element on its own. A condition is no set. -/
def Element.set? (fl : Flags) (e : Element) : Option CharSet :=
  match e with
  | .set s => some s
  | .look _ => none
  | e => do charSet? fl (← e.char? fl)

/-- The next character that is no blank; one sign of a comment is passed over. -/
def peekSpace (fl : Flags) (cs : List Char) : Option Char :=
  if fl.freeSpacing then
    match cs.dropWhile isWhiteSpace with
    | '#' :: rest => (rest.dropWhile isWhiteSpace).head?
    | rest => rest.head?
  else cs.head?

/-- Reads the other end of a range behind its first and a hyphen. -/
def rangeTo? (fl : Flags) (first : Element) (cs : List Char) : Option (Part × List Char) := do
  let (last, rest) ← item? fl (skipSpace fl cs)
  let low ← first.char? fl
  let high ← last.char? fl
  let _ ← charSet? fl low
  let _ ← charSet? fl high
  if low ≤ high then return (.leaf (.range low.toNat high.toNat), rest) else none

/-- Reads what follows an item: the other end of a range, or nothing if it stands alone. A hyphen in
front of the closing bracket or of another hyphen makes no range. -/
def rangeFrom? (fl : Flags) (first : Element) (cs : List Char) : Option (Part × List Char) :=
  match skipSpace fl cs with
  | [] => none
  | c :: rest =>
    if c == '-' && peekSpace fl rest != some ']' && peekSpace fl rest != some '-' then
      rangeTo? fl first rest
    else (first.set? fl).map fun s => (.leaf s, c :: rest)

/-- Reads a range, or an item that stands alone. -/
def rangeOrItem? (fl : Flags) (cs : List Char) : Option (Part × List Char) := do
  let (first, rest) ← item? fl cs
  rangeFrom? fl first rest

/-- Reads the name of a class and `:]` behind it. -/
def latinName? : List Char → Option (List Char × List Char)
  | [] => none
  | c :: cs =>
    if c == ':' then cs.head?.bind fun d => if d == ']' then some ([], cs.tail) else none
    else (latinName? cs).map fun p => (c :: p.1, p.2)

/-- Reads a class that is named between `[:` and `:]` behind its bracket, if the name is known. A
caret in front of the name takes the complement. -/
def latinClass? (fl : Flags) : List Char → Option (Option Part × List Char)
  | c :: cs =>
    if c == ':' then do
      let negated := cs.head? == some '^'
      let (name, rest) ← latinName? (if negated then cs.tail else cs)
      let s ← CharSet.latinClass? (.ofList name)
      let s := CharSet.negatedIf negated (fl.fold s)
      return (if fl.unicode || s.isNarrow then some (.leaf s) else none, rest)
    else none
  | [] => none

/-- Passes over hyphens that stand for themselves at the start of a class. Each turn takes at least
one character. -/
def hyphens (fl : Flags) : (turns : Nat) → List Part → List Char → List Part × List Char
  | turns + 1, items, c :: cs =>
    if c == '-' then hyphens fl turns (.leaf (.char '-') :: items) (skipSpace fl cs)
    else (items, c :: cs)
  | _, items, cs => (items, cs)

/-- Reads a caret at the start of a class, if there is one. -/
def caret (fl : Flags) (cs : List Char) : Bool × List Char :=
  match skipSpace fl cs with
  | '^' :: rest => (true, skipSpace fl rest)
  | rest => (false, rest)

/-- Reads the start of a class behind its hyphens: a closing bracket that stands for itself if it is
the first item. Something has to follow. -/
def firstItem? (fl : Flags) (negated : Bool) (items : List Part) :
    List Char → Option (Level × List Char)
  | [] => none
  | c :: cs =>
    if c == ']' && items.isEmpty then
      match skipSpace fl cs with
      | [] => none
      | rest => some (⟨negated, none, [.leaf (.char ']')]⟩, rest)
    else some (⟨negated, none, items⟩, c :: cs)

/-- Reads the start of a class behind its bracket. -/
def openClass? (fl : Flags) (cs : List Char) : Option (Level × List Char) :=
  let (negated, cs) := caret fl cs
  let (items, cs) := hyphens fl cs.length [] cs
  firstItem? fl negated items cs

/-! ## Classes -/

/-- The operator that a sign stands for if it is written twice. -/
def SetOperator.ofSign? : Char → Option SetOperator
  | '&' => some intersection
  | '-' => some difference
  | '~' => some symmetricDifference
  | _ => none

/-- Reads an operator between lists. -/
def operator? : List Char → Option (SetOperator × List Char)
  | c :: d :: rest => if c = d then (SetOperator.ofSign? c).map fun op => (op, rest) else none
  | _ => none

/-- Reads a class up to the bracket that closes it; `level` is the innermost class and `outer` holds
the ones around it. Each turn takes at least one character. -/
def class? (fl : Flags) :
    (turns : Nat) → (level : Level) → (outer : List Level) → List Char → Option (Part × List Char)
  | 0, _, _, _ => none
  | turns + 1, level, outer, cs =>
    match skipSpace fl cs with
    | [] => none
    | c :: rest =>
      match c with
      | ']' => do
        let p ← level.close? fl
        match outer with
        | [] => return (p, rest)
        | l :: ls => class? fl turns (l.add ⟨p.set, p.nesting + 1⟩) ls rest
      | '[' =>
        match latinClass? fl rest with
        | some (p, rest) => do class? fl turns (level.add (← p)) outer rest
        | none => do
          let (l, rest) ← openClass? fl rest
          class? fl turns l (level :: outer) rest
      | c =>
        match operator? (c :: rest) with
        | some (op, rest) => class? fl turns (level.operator fl op) outer rest
        | none => do
          let (p, rest) ← rangeOrItem? fl (c :: rest)
          class? fl turns (level.add p) outer rest

/-- Reads a class behind its opening bracket. -/
def bracket? (fl : Flags) (cs : List Char) : Option (Pattern × List Char) := do
  let (level, rest) ← openClass? fl cs
  let (p, rest) ← class? fl (rest.length + 1) level [] rest
  return (.bracket p.set p.nesting, rest)

end JsonPath.Regex
