import JsonPath.Regex.Bracket
import JsonPath.Regex.Machine
import JsonPath.Unicode.Latest

/-!
# Draft regular expressions

An expression is read sign by sign. Groups that are open are kept on a stack, the innermost first;
each remembers the branches and the items of its surroundings and the flags to return to when it is
closed. A flag that is set on its own counts up to the end of the group around it, also in the
branches that follow.

Expressions are invalid if a group or a class is not closed, a repetition has nothing to repeat or
bounds in the wrong order, an escape is unknown, a name is used twice, or a construct is used that
needs backtracking: look-around and references to groups. An expression that would need too large a
machine is refused as well.
-/

namespace JsonPath.Regex

open JsonPath.Text JsonPath.Unicode

/-! ## Groups -/

/-- Finished branches and the items of the current one, both with the last first. -/
structure Branches where
  done : List Pattern
  items : List Pattern

namespace Branches

/-- Nothing so far. -/
def start : Branches := ⟨[], []⟩

/-- One more item in the current branch. -/
def add (b : Branches) (p : Pattern) : Branches := { b with items := p :: b.items }

/-- A new branch. -/
def fork (b : Branches) : Branches := ⟨.ofSequence b.items.reverse :: b.done, []⟩

/-- All branches as a pattern. -/
def finish (b : Branches) : Pattern := .ofChoice b.fork.done.reverse

end Branches

/-- A group that is open around another: what was read in it so far, the flags to return to, and
the number of the group inside of it, if that has one. -/
structure Surroundings where
  branches : Branches
  flags : Flags
  number : Option Nat

/-- The expression read so far: the flags in force, the innermost open group and what is around it,
the number of groups with a number, and the names of groups that are taken. -/
structure Draft where
  flags : Flags
  branches : Branches
  outer : List Surroundings
  numbered : Nat
  names : List (List Char)

namespace Draft

/-- Nothing read so far. -/
def start : Draft := ⟨{}, .start, [], 0, []⟩

/-- One more item. -/
def add (r : Draft) (p : Pattern) : Draft := { r with branches := r.branches.add p }

/-- Opens a group without a number, in which given flags are in force. -/
def openGroup (r : Draft) (fl : Flags) : Draft :=
  { r with flags := fl, branches := .start, outer := ⟨r.branches, r.flags, none⟩ :: r.outer }

/-- Opens a group with the next number. -/
def openNumbered (r : Draft) : Draft :=
  { r with
    branches := .start
    outer := ⟨r.branches, r.flags, some r.numbered⟩ :: r.outer
    numbered := r.numbered + 1 }

/-- Closes the innermost group, if one is open. -/
def closeGroup? (r : Draft) : Option Draft :=
  match r.outer with
  | [] => none
  | s :: outer =>
    some { r with
      flags := s.flags
      branches := s.branches.add (.group s.number r.branches.finish)
      outer := outer }

/-- Starts a new branch. -/
def fork (r : Draft) : Draft := { r with branches := r.branches.fork }

/-- Puts a repetition in place of the last item, if that can be repeated. A question mark behind it
turns the preference for many or few turns around. -/
def repeat? (r : Draft) (least : Nat) (most : Option Nat) (marked : Bool) : Option Draft :=
  match r.branches.items with
  | p :: ps =>
    if p.isRepeatable then
      let q := Pattern.repetition p least most (r.flags.reluctant == marked)
      some { r with branches := { r.branches with items := q :: ps } }
    else none
  | [] => none

/-- The whole expression, if no group is open any more. -/
def finish? (r : Draft) : Option Pattern :=
  if r.outer.isEmpty then some r.branches.finish else none

end Draft

/-! ## Flags and names of groups -/

/-- Sets or clears a flag, given by its letter. -/
def Flags.set? (fl : Flags) (letter : Char) (value : Bool) : Option Flags :=
  match letter with
  | 'i' => some { fl with ignoreCase := value }
  | 'm' => some { fl with multiLine := value }
  | 's' => some { fl with dotAll := value }
  | 'u' => some { fl with unicode := value }
  | 'R' => some { fl with crlf := value }
  | 'x' => some { fl with freeSpacing := value }
  | 'U' => some { fl with reluctant := value }
  | _ => none

/-- Reads flags up to a colon or a closing parenthesis, which is the character returned. No flag
occurs twice, and a hyphen, behind which flags are cleared, occurs once and is not the last sign.
The signs read so far are in `seen`, the last one first. -/
def readFlags? (fl : Flags) (seen : List Char) : List Char → Option ((Flags × Bool) × List Char)
  | [] => none
  | c :: cs =>
    match c with
    | ':' => if seen.head? = some '-' then none else some ((fl, true), cs)
    | ')' => if seen.head? = some '-' ∨ seen.isEmpty then none else some ((fl, false), cs)
    | c =>
      if seen.contains c then none
      else if c == '-' then readFlags? fl (c :: seen) cs
      else do readFlags? (← fl.set? c (!seen.contains '-')) (c :: seen) cs

/-- Whether a character can be the first of the name of a group. -/
def isGroupNameStart (c : Char) : Bool := c == '_' || isNameLetter c

/-- Whether a character can stand in the name of a group. -/
def isGroupNameChar (c : Char) : Bool :=
  c == '_' || c == '.' || c == '[' || c == ']' || isNameLetter c || isNameNumber c

/-- Whether characters are the name of a group. -/
def isGroupName : List Char → Bool
  | [] => false
  | c :: cs => isGroupNameStart c && cs.all isGroupNameChar

/-- Reads what stands in front of an angle bracket, and the bracket. -/
def upToAngle? : List Char → Option (List Char × List Char)
  | [] => none
  | c :: cs => if c == '>' then some ([], cs) else (upToAngle? cs).map fun p => (c :: p.1, p.2)

/-- Reads the name of a group and the bracket behind it. -/
def groupName? (cs : List Char) : Option (List Char × List Char) := do
  let (name, rest) ← upToAngle? cs
  if isGroupName name then return (name, rest) else none

/-- Reads the name of a group, which is not taken yet, and opens the group. -/
def namedGroup? (r : Draft) (cs : List Char) : Option (Draft × List Char) := do
  let (name, rest) ← groupName? cs
  if r.names.contains name then none
  else return ({ r.openNumbered with names := name :: r.names }, rest)

/-- Reads flags behind the question mark of a group. They count for the group, or for what is left of
the group around it. -/
def flagGroup? (r : Draft) (cs : List Char) : Option (Draft × List Char) := do
  let ((fl, isGroup), rest) ← readFlags? r.flags [] cs
  return (if isGroup then r.openGroup fl else { r.add .setting with flags := fl }, rest)

/-- Reads the start of a group behind its question mark: a name, or flags. Look-around is refused. -/
def specialGroup? (r : Draft) : List Char → Option (Draft × List Char)
  | [] => none
  | c :: cs =>
    match c with
    | '=' => none
    | '!' => none
    | '<' => if cs.head? = some '=' ∨ cs.head? = some '!' then none else namedGroup? r cs
    | c =>
      if c = 'P' ∧ cs.head? = some '<' then namedGroup? r cs.tail
      else flagGroup? r (c :: cs)

/-- Reads the start of a group behind its parenthesis. -/
def group? (r : Draft) (cs : List Char) : Option (Draft × List Char) :=
  match skipSpace r.flags cs with
  | '?' :: rest => specialGroup? r rest
  | rest => some (r.openNumbered, rest)

/-! ## Repetitions -/

/-- The greatest bound of a repetition. -/
def maxCount : Nat := Nat.pow 2 32 - 1

/-- Reads a bound of a repetition, with blanks around it. -/
def count? (fl : Flags) (cs : List Char) : Option (Nat × List Char) :=
  let (ds, rest) := takeSpaced fl isDigit cs.length (cs.dropWhile isWhiteSpace)
  let n := ofDigits ds
  if ds.isEmpty ∨ maxCount < n then none
  else some (n, (takeSpaced fl isWhiteSpace rest.length rest).2)

/-- Reads the upper bound of a repetition behind the lower one, which is both without a comma. -/
def upper? (fl : Flags) (least : Nat) : List Char → Option (Option Nat × List Char)
  | ',' :: rest =>
    match skipSpace fl rest with
    | '\x7d' :: rest => some (none, '\x7d' :: rest)
    | rest => (count? fl rest).map fun p => (some p.1, p.2)
  | rest => some (some least, rest)

/-- Reads the brace that closes a repetition, whose bounds are in order. -/
def close? (least : Nat) (most : Option Nat) : List Char → Option ((Nat × Option Nat) × List Char)
  | '\x7d' :: rest => if most.all (least ≤ ·) then some ((least, most), rest) else none
  | _ => none

/-- Reads the bounds of a repetition behind the opening brace, and the closing one. -/
def bounds? (fl : Flags) (cs : List Char) : Option ((Nat × Option Nat) × List Char) := do
  let (least, rest) ← count? fl (skipSpace fl cs)
  let (most, rest) ← upper? fl least rest
  close? least most rest

/-- Reads a question mark behind a repetition, if there is one. -/
def mark : List Char → Bool × List Char
  | '?' :: cs => (true, cs)
  | cs => (false, cs)

/-! ## Elements -/

/-- The set that the dot stands for. It has to be in terms of Unicode. -/
def dot? (fl : Flags) : Option CharSet :=
  if !fl.unicode then none
  else if fl.dotAll then some .any
  else if fl.crlf then some (.complement (.unions [.char '\r', .char '\n']))
  else some (.complement (.char '\n'))

/-- The condition that a caret stands for. -/
def lineStart (fl : Flags) : Look :=
  if fl.multiLine then (if fl.crlf then .crlfLineStart else .lineStart) else .textStart

/-- The condition that a dollar sign stands for. -/
def lineEnd (fl : Flags) : Look :=
  if fl.multiLine then (if fl.crlf then .crlfLineEnd else .lineEnd) else .textEnd

/-- The pattern of an element. -/
def Element.pattern? (fl : Flags) (e : Element) : Option Pattern :=
  match e with
  | .set s => some (.one s)
  | .look l => some (.look l)
  | e => (e.char? fl).map fun c => .one (fl.fold (.char c))

/-- Reads an element that is no group, no class in brackets and no repetition. -/
def element? (fl : Flags) : List Char → Option (Pattern × List Char)
  | [] => none
  | c :: cs =>
    match c with
    | '\\' => do
      let (e, rest) ← escape? fl cs
      return (← e.pattern? fl, rest)
    | '.' => (dot? fl).map fun s => (.one s, cs)
    | '^' => some (.look (lineStart fl), cs)
    | '$' => some (.look (lineEnd fl), cs)
    | c => ((Element.literal c).pattern? fl).map fun p => (p, cs)

/-! ## Expressions -/

/-- Reads the bounds of a repetition behind the opening brace, and what belongs to them. -/
def counted? (r : Draft) (cs : List Char) : Option (Draft × List Char) := do
  let ((least, most), rest) ← bounds? r.flags cs
  let (marked, rest) := mark (skipSpace r.flags rest)
  return (← r.repeat? least most marked, rest)

/-- Reads what belongs to a repetition without bounds in braces. -/
def repeated? (r : Draft) (least : Nat) (most : Option Nat) (cs : List Char) :
    Option (Draft × List Char) :=
  let (marked, cs) := mark cs
  (r.repeat? least most marked).map fun r => (r, cs)

/-- Reads one sign with all that belongs to it. -/
def sign? (r : Draft) : List Char → Option (Draft × List Char)
  | [] => none
  | c :: cs =>
    match c with
    | '(' => group? r cs
    | ')' => r.closeGroup?.map fun r => (r, cs)
    | '|' => some (r.fork, cs)
    | '[' => (bracket? r.flags cs).map fun p => (r.add p.1, p.2)
    | '?' => repeated? r 0 (some 1) cs
    | '*' => repeated? r 0 none cs
    | '+' => repeated? r 1 none cs
    | '\x7b' => counted? r cs
    | c => (element? r.flags (c :: cs)).map fun p => (r.add p.1, p.2)

/-- Reads signs up to the end. Each turn takes at least one character. -/
def signs? : (turns : Nat) → Draft → List Char → Option Draft
  | 0, _, _ => none
  | turns + 1, r, cs =>
    match skipSpace r.flags cs with
    | [] => some r
    | cs => do
      let (r, rest) ← sign? r cs
      signs? turns r rest

namespace Pattern

/-- The pattern of a regular expression, if it is valid. -/
def read? (cs : List Char) : Option Pattern := do
  (← signs? (cs.length + 1) .start cs).finish?

/-- Whether a pattern is not too large: its parts are not nested too deeply, and the machines for it
are within the limit. -/
def isAllowed (p : Pattern) : Bool := p.nesting ≤ maxDepth && p.term.isAdmissible

/-- The pattern of a regular expression, if it is valid and not too large. -/
def ofChars? (cs : List Char) : Option Pattern := (read? cs).filter isAllowed

end Pattern

end JsonPath.Regex
