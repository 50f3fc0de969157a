import Mathlib.Control.Monad.Basic
import JsonPath.Proofs.Cursor
import JsonPath.Proofs.Grammar

/-!
# Reading in steps

The reading functions of `Query.Phrase` again, each as a program of few steps (`Reader`): look at
the next token, pass over it, read another phrase, or give up. The outcome is the same, errors
included; what is gone are the proofs that the functions carry along. So what holds of every step
holds of all reading, whether it succeeds or fails. The functions themselves are opened here only,
and all that is proved of them is proved of their programs.

Of the tokens ahead, nothing but the next one is ever looked at.
-/

namespace JsonPath.Query

open JsonPath.Token Grammar

instance (t : Token) : Decidable (IsKeyword t) :=
  inferInstanceAs (Decidable (t.kind = .name ∧ isKeyword t.text = true))

instance (t : Token) : Decidable (LooksLiteral t) :=
  inferInstanceAs
    (Decidable (t.kind = .integer ∨ t.kind = .decimal ∨ t.kind = .string ∨ IsKeyword t))

/-- What is tested of a keyword is that the next token is one. -/
theorem Cursor.atKeyword_iff {c : Cursor} : c.atKeyword = true ↔ IsKeyword c.token := by
  simp [atKeyword, IsKeyword, kind]

/-- What is tested of a literal is that the next token looks like one. -/
theorem Cursor.atLiteral_iff {c : Cursor} : c.atLiteral = true ↔ LooksLiteral c.token := by
  simp [atLiteral, LooksLiteral, atKeyword_iff, kind, or_assoc]

/-! ## Steps -/

/-- Reading from a place among the tokens on, to a value and the place behind it. -/
abbrev Reader := StateT Cursor (Except ParseError)

namespace Reader

variable {α : Type}

/-- Looks at the next token. -/
def next : Reader Token := fun c => .ok (c.token, c)

/-- Looks at the kind of the next token. -/
def kind : Reader Kind := fun c => .ok (c.kind, c)

/-- Passes over the next token. -/
def skip : Reader Unit := fun c => .ok ((), c.skip)

/-- Gives up because of the next token. -/
def fail (cause : ParseError.Cause) : Reader α := fun c => .error (c.error cause)

/-- Gives up because the next token does not fit. -/
def unexpected : Reader α := fun c => .error c.unexpected

section Sequences

variable {β : Type} {f : Reader α} {g : α → Reader β} {c d : Cursor}

/-- Behind a step that succeeds, the next one is run from the place that it leads to. -/
theorem bind_of_ok {x : α} (h : f c = .ok (x, d)) : (f >>= g) c = g x d := by
  change f c >>= (fun p => g p.1 p.2) = _
  rw [h]
  rfl

/-- Behind a step that fails, nothing is run. -/
theorem bind_of_error {e : ParseError} (h : f c = .error e) : (f >>= g) c = .error e := by
  change f c >>= (fun p => g p.1 p.2) = _
  rw [h]
  rfl

/-- A program in two steps succeeds only if both do. -/
theorem bind_eq_ok_iff {f : Reader α} {g : α → Reader β} {y : β} :
    (f >>= g) c = .ok (y, d) ↔ ∃ x c₁, f c = .ok (x, c₁) ∧ g x c₁ = .ok (y, d) := by
  constructor
  · intro h
    cases hf : f c with
    | error e =>
      rw [bind_of_error hf] at h
      cases h
    | ok p =>
      obtain ⟨x, c₁⟩ := p
      exact ⟨x, c₁, rfl, (bind_of_ok hf).symm.trans h⟩
  · rintro ⟨x, c₁, hf, hg⟩
    exact (bind_of_ok hf).trans hg

/-- To return a value reads nothing. -/
theorem pure_eq_ok_iff {x y : α} : (pure x : Reader α) c = .ok (y, d) ↔ y = x ∧ d = c := by
  change Except.ok (x, c) = .ok (y, d) ↔ _
  rw [Except.ok.injEq, Prod.mk.injEq, eq_comm, @eq_comm _ c]

theorem skip_eq_ok_iff {u : Unit} : skip c = .ok (u, d) ↔ d = c.skip := by
  rw [skip, Except.ok.injEq, Prod.mk.injEq, eq_comm, @eq_comm _ c.skip]
  exact and_iff_right rfl

theorem fail_ne_ok {cause : ParseError.Cause} {x : α} :
    (fail cause : Reader α) c ≠ .ok (x, d) := nofun

theorem unexpected_ne_ok {x : α} : (unexpected : Reader α) c ≠ .ok (x, d) := nofun

end Sequences

end Reader

/-- The outcome without the proof that it carries. -/
def bare {c : Cursor} {α : Type} (o : Outcome α c) : Except ParseError (α × Cursor) :=
  o.map fun p => (p.value, p.rest)

/-- A reading function as a program. -/
def reading {α : Type} (f : (c : Cursor) → Outcome α c) : Reader α := fun c => bare (f c)

/-! ## Programs -/

namespace Program

open Reader

/-! ### Phrases without parts -/

/-- A token of a given kind. -/
def expect (k : Kind) : Reader Unit := do
  if (← kind) = k then skip else unexpected

/-- A literal. -/
def literal : Reader Expr := do
  let t ← next
  if LooksLiteral t then
    match Phrase.literalOf? t with
    | some e =>
      skip
      return e
    | none => fail .invalidLiteral
  else unexpected

/-- An index or a bound of a slice, if there is one. -/
def bound : Reader (Option Int64) := do
  let t ← next
  if t.kind = .integer then
    match Literal.integer? t.text with
    | some i =>
      if -Phrase.maxIndex ≤ i.toInt ∧ i.toInt ≤ Phrase.maxIndex then
        skip
        return some i
      else fail .invalidLiteral
    | none => fail .invalidLiteral
  else return none

/-- The step of a slice with the colon in front of it, if there is one. -/
def stepBound : Reader (Option Int64) := do
  if (← kind) = .colon then
    skip
    reading Phrase.bound
  else return none

/-- An index or a slice. -/
def indexOrSlice : Reader Selector := do
  let start ← reading Phrase.bound
  if (← kind) = .colon then
    skip
    let stop ← reading Phrase.bound
    let step ← reading Phrase.stepBound
    return .slice ⟨start, stop, step⟩
  else match start with
    | some i => return .index i
    | none => unexpected

/-- What follows one or two dots, apart from brackets. -/
def dotted : Reader Selector := do
  let t ← next
  match t.kind with
  | .asterisk =>
    skip
    return .wildcard
  | .name =>
    skip
    return .shorthand t.text
  | _ => unexpected

/-! ### Segments and selectors -/

/-- Segments, as long as there are any. -/
def segments : Reader (List Segment) := do
  match ← kind with
  | .openBracket =>
    skip
    let ss ← reading Phrase.selection
    let more ← reading Phrase.segments
    return .brackets .children ss :: more
  | .dot =>
    skip
    let s ← reading Phrase.dotted
    let more ← reading Phrase.segments
    return .dot .children s :: more
  | .dotDot =>
    skip
    if (← kind) = .openBracket then
      skip
      let ss ← reading Phrase.selection
      let more ← reading Phrase.segments
      return .brackets .descendants ss :: more
    else
      let s ← reading Phrase.dotted
      let more ← reading Phrase.segments
      return .dot .descendants s :: more
  | _ => return []

/-- Selectors behind an opening bracket, and the closing one. -/
def selection : Reader (List Selector) := do
  let s ← reading Phrase.selector
  let ss ← reading Phrase.moreSelectors
  return s :: ss

/-- The selectors that follow the first, and the closing bracket. -/
def moreSelectors : Reader (List Selector) := do
  match ← kind with
  | .comma =>
    skip
    let s ← reading Phrase.selector
    let ss ← reading Phrase.moreSelectors
    return s :: ss
  | .closeBracket =>
    skip
    return []
  | _ => unexpected

/-- A selector. -/
def selector : Reader Selector := do
  match ← kind with
  | .string =>
    let t ← next
    skip
    return .name (Literal.unescape t.text)
  | .asterisk =>
    skip
    return .wildcard
  | .integer | .colon => reading Phrase.indexOrSlice
  | .questionMark =>
    skip
    let e ← reading Phrase.disjunction
    return .filter e
  | _ => unexpected

/-! ### Expressions -/

/-- Conjunctions with `||` between them. -/
def disjunction : Reader Expr := do
  let e ← reading Phrase.conjunction
  reading (Phrase.moreDisjuncts e)

/-- The conjunctions that follow the first. -/
def moreDisjuncts (left : Expr) : Reader Expr := do
  if (← kind) = .disjunction then
    skip
    let right ← reading Phrase.conjunction
    reading (Phrase.moreDisjuncts (.binary .or left right))
  else return left

/-- Tests with `&&` between them. -/
def conjunction : Reader Expr := do
  let e ← reading Phrase.test
  reading (Phrase.moreConjuncts e)

/-- The tests that follow the first. -/
def moreConjuncts (left : Expr) : Reader Expr := do
  if (← kind) = .conjunction then
    skip
    let right ← reading Phrase.test
    reading (Phrase.moreConjuncts (.binary .and left right))
  else return left

/-- A literal as the left operand of a comparison. -/
def literalTest : Reader Expr := do
  let e ← reading Phrase.literal
  if (← kind).isComparison then reading (Phrase.compared e) else unexpected

/-- A negation, an expression in parentheses, a call, an embedded query, or a comparison. -/
def test : Reader Expr := do
  match ← kind with
  | .negation =>
    skip
    let e ← reading Phrase.negated
    return .not e
  | .openParen =>
    skip
    reading Phrase.parenthesized
  | .root =>
    skip
    reading (Phrase.queryTest .root)
  | .current =>
    skip
    reading (Phrase.queryTest .current)
  | .name =>
    let t ← next
    if IsKeyword t then literalTest
    else
      skip
      let e ← reading (Phrase.call t.text)
      reading (Phrase.compared e)
  | _ => literalTest

/-- An embedded query as an operand of a comparison, when it has just been read. -/
def operand (a : Anchor) (ss : List Segment) : Reader Expr := fun c =>
  (Phrase.operand c a ss).map fun e => (e, c)

/-- An embedded query behind its anchor, and a comparison if one follows. -/
def queryTest (a : Anchor) : Reader Expr := do
  let ss ← reading Phrase.segments
  if (← kind).isComparison then
    let left ← operand a ss
    reading (Phrase.compared left)
  else return .nodes a ss

/-- A comparison behind its left operand, if there is one. -/
def compared (left : Expr) : Reader Expr := do
  match Phrase.comparison? (← kind) with
  | some op =>
    skip
    let right ← reading Phrase.comparable
    return .binary (.compare op) left right
  | none => return left

/-- An operand of a comparison: a call, an embedded query, or a literal. -/
def comparable : Reader Expr := do
  match ← kind with
  | .root =>
    skip
    let ss ← reading Phrase.segments
    operand .root ss
  | .current =>
    skip
    let ss ← reading Phrase.segments
    operand .current ss
  | .name =>
    let t ← next
    if IsKeyword t then reading Phrase.literal
    else
      skip
      reading (Phrase.call t.text)
  | _ => reading Phrase.literal

/-- What can be negated: an expression in parentheses, a call, or an embedded query. -/
def negated : Reader Expr := do
  match ← kind with
  | .openParen =>
    skip
    reading Phrase.parenthesized
  | .root =>
    skip
    let ss ← reading Phrase.segments
    return .nodes .root ss
  | .current =>
    skip
    let ss ← reading Phrase.segments
    return .nodes .current ss
  | .name =>
    let t ← next
    if IsKeyword t then unexpected
    else
      skip
      reading (Phrase.call t.text)
  | _ => unexpected

/-- An expression behind an opening parenthesis, and the closing one. -/
def parenthesized : Reader Expr := do
  let e ← reading Phrase.disjunction
  reading (Phrase.expect · .closeParen)
  return .paren e

/-- The arguments of a call behind its name. -/
def call (function : String) : Reader Expr := do
  if (← kind) = .openParen then
    skip
    if (← kind) = .closeParen then
      skip
      return .call function []
    else
      let e ← reading Phrase.argument
      let es ← reading Phrase.moreArguments
      return .call function (e :: es)
  else unexpected

/-- The arguments that follow the first, and the closing parenthesis. -/
def moreArguments : Reader (List Expr) := do
  match ← kind with
  | .comma =>
    skip
    let e ← reading Phrase.argument
    let es ← reading Phrase.moreArguments
    return e :: es
  | .closeParen =>
    skip
    return []
  | _ => unexpected

/-- An argument: a literal, which may be compared, or any expression. -/
def argument : Reader Expr := do
  if LooksLiteral (← next) then
    let e ← reading Phrase.literal
    reading (Phrase.compared e)
  else reading Phrase.disjunction

/-! ### Queries -/

/-- A query from its root sign on. The end of the input stays where it is. -/
def unmarkedQuery : Reader Query := do
  if (← kind) = .root then
    skip
    let ss ← reading Phrase.segments
    if (← kind) = .endOfInput then return ⟨ss⟩ else unexpected
  else fail .missingRoot

/-- A query, with or without a byte order mark in front of it. -/
def query : Reader Query := do
  if (← kind) = .byteOrderMark then
    skip
    unmarkedQuery
  else unmarkedQuery

end Program

/-! ## Outcomes of programs -/

section

variable {α β : Type} {c d : Cursor}

/-- The second step of a computation whose first step has succeeded. -/
theorem ok_bind {ε : Type} (a : α) (f : α → Except ε β) : Except.ok a >>= f = f a := rfl

/-- Steps that carry bounds are run like the plain ones. -/
theorem bare_bind {o : Outcome α d} {f : Parsed d α → Outcome β c}
    {g : α × Cursor → Except ParseError (β × Cursor)}
    (h : ∀ p, bare (f p) = g (p.value, p.rest)) : bare (o >>= f) = bare o >>= g := by
  cases o with
  | error e => rfl
  | ok p => exact h p

/-- A last step that only carries on what was read. -/
theorem bare_last {o : Outcome α d} {f : Parsed d α → Outcome α c}
    (h : ∀ p, bare (f p) = .ok (p.value, p.rest)) : bare (o >>= f) = bare o := by
  cases o with
  | error e => rfl
  | ok p => exact h p

/-- What a function reads is what its program returns. -/
theorem reading_eq_ok_iff {f : (c : Cursor) → Outcome α c} {x : α} :
    reading f c = .ok (x, d) ↔ Reads (f c) x d := by
  constructor
  · intro h
    rw [reading] at h
    cases ho : f c with
    | error e =>
      rw [ho] at h
      cases h
    | ok p =>
      rw [ho] at h
      cases h
      exact ⟨p.le, rfl⟩
  · rintro ⟨_, h⟩
    rw [reading, h]
    rfl

/-- A program leaves no more tokens than there were. -/
theorem size_le_of_reading {f : (c : Cursor) → Outcome α c} {x : α}
    (h : reading f c = .ok (x, d)) : d.size ≤ c.size :=
  (reading_eq_ok_iff.mp h).size_le

variable (c : Cursor)

theorem run_next (f : Token → Reader α) : (Reader.next >>= f) c = f c.token c := rfl

theorem run_kind {k : Kind} (h : c.kind = k) (f : Kind → Reader α) :
    (Reader.kind >>= f) c = f k c := by
  rw [← h]
  rfl

theorem run_skip (f : Unit → Reader α) : (Reader.skip >>= f) c = f () c.skip := rfl

/-- A reading function as a step of a program. -/
theorem run_reading (f : (c : Cursor) → Outcome α c) (g : α → Reader β) :
    (reading f >>= g) c = bare (f c) >>= fun p => g p.1 p.2 := rfl

end

namespace Phrase

/-! ## Functions as programs -/

theorem reading_expect (k : Kind) : reading (expect · k) = Program.expect k := by
  funext c
  rw [reading, expect, Program.expect, run_kind c rfl]
  split
  · rfl
  · rfl

/-- A literal is read as its program says. So is every other phrase in what follows, and for each
of them one function is opened. -/
theorem reading_literal : reading literal = Program.literal := by
  funext c
  rw [reading, literal, Program.literal, run_next]
  simp only [Cursor.atLiteral_iff]
  split
  · cases literalOf? c.token <;> rfl
  · rfl

/-- A bound of a slice: its two tests of the range are two steps of one program. -/
theorem reading_bound : reading bound = Program.bound := by
  funext c
  rw [reading, bound, Program.bound, run_next]
  unfold Cursor.kind
  split
  · cases Literal.integer? c.token.text with
    | none => rfl
    | some i =>
      dsimp only
      split
      · rfl
      · rfl
  · rfl

theorem reading_stepBound : reading stepBound = Program.stepBound := by
  funext c
  rw [reading, stepBound, Program.stepBound, run_kind c rfl]
  split
  · exact bare_last fun _ => rfl
  · rfl

/-- An index or a slice: the colon decides. -/
theorem reading_indexOrSlice : reading indexOrSlice = Program.indexOrSlice := by
  funext c
  rw [reading, indexOrSlice, Program.indexOrSlice, run_reading]
  refine bare_bind fun p => ?_
  obtain ⟨start, c₁, h₁⟩ := p
  rw [run_kind c₁ rfl]
  dsimp only
  split
  · exact bare_bind fun _ => bare_bind fun _ => rfl
  · cases start <;> rfl

theorem reading_dotted : reading dotted = Program.dotted := by
  funext c
  rw [reading, dotted, Program.dotted, run_next]
  unfold Cursor.kind
  cases c.token.kind <;> rfl

/-- Segments: the kind of the next token decides, and behind two dots the one after that. -/
theorem reading_segments : reading segments = Program.segments := by
  funext c
  rw [reading, segments, Program.segments]
  split
  · next hk =>
    rw [run_kind c hk]
    exact bare_bind fun _ => bare_bind fun _ => rfl
  · next hk =>
    rw [run_kind c hk]
    exact bare_bind fun _ => bare_bind fun _ => rfl
  · next hk =>
    rw [run_kind c hk]
    dsimp only
    rw [run_skip, run_kind c.skip rfl]
    split
    · exact bare_bind fun _ => bare_bind fun _ => rfl
    · exact bare_bind fun _ => bare_bind fun _ => rfl
  · next h₁ h₂ h₃ =>
    rw [run_kind c rfl]
    generalize c.kind = k at h₁ h₂ h₃
    cases k <;> first | rfl | contradiction

theorem reading_selection : reading selection = Program.selection := by
  funext c
  rw [reading, selection, Program.selection, run_reading]
  exact bare_bind fun _ => bare_bind fun _ => rfl

theorem reading_moreSelectors : reading moreSelectors = Program.moreSelectors := by
  funext c
  rw [reading, moreSelectors, Program.moreSelectors]
  split
  · next hk =>
    rw [run_kind c hk]
    exact bare_bind fun _ => bare_bind fun _ => rfl
  · next hk =>
    rw [run_kind c hk]
    rfl
  · next h₁ h₂ =>
    rw [run_kind c rfl]
    generalize c.kind = k at h₁ h₂
    cases k <;> first | rfl | contradiction

/-- A selector is told by the kind of its first token. -/
theorem reading_selector : reading selector = Program.selector := by
  funext c
  rw [reading, selector, Program.selector]
  split
  · next hk =>
    rw [run_kind c hk]
    rfl
  · next hk =>
    rw [run_kind c hk]
    rfl
  · next hk =>
    rw [run_kind c hk]
    rfl
  · next hk =>
    rw [run_kind c hk]
    rfl
  · next hk =>
    rw [run_kind c hk]
    exact bare_bind fun _ => rfl
  · next h₁ h₂ h₃ h₄ h₅ =>
    rw [run_kind c rfl]
    generalize c.kind = k at h₁ h₂ h₃ h₄ h₅
    cases k <;> first | rfl | contradiction

/-- A disjunction is a conjunction and what may be added to it. -/
theorem reading_disjunction : reading disjunction = Program.disjunction := by
  funext c
  rw [reading, disjunction, Program.disjunction, run_reading]
  exact bare_bind fun _ => bare_last fun _ => rfl

/-- What is added to a disjunct is taken together from the left. -/
theorem reading_moreDisjuncts (left : Expr) :
    reading (moreDisjuncts left) = Program.moreDisjuncts left := by
  funext c
  rw [reading, moreDisjuncts, Program.moreDisjuncts, run_kind c rfl]
  split
  · exact bare_bind fun _ => bare_last fun _ => rfl
  · rfl

/-- A conjunction is a test and what may be added to it. -/
theorem reading_conjunction : reading conjunction = Program.conjunction := by
  funext c
  rw [reading, conjunction, Program.conjunction, run_reading]
  exact bare_bind fun _ => bare_last fun _ => rfl

/-- What is added to a conjunct is taken together from the left. -/
theorem reading_moreConjuncts (left : Expr) :
    reading (moreConjuncts left) = Program.moreConjuncts left := by
  funext c
  rw [reading, moreConjuncts, Program.moreConjuncts, run_kind c rfl]
  split
  · exact bare_bind fun _ => bare_last fun _ => rfl
  · rfl

/-- Both branches of a test that start with a literal run one program. -/
theorem bare_literalTest (c : Cursor) :
    bare (literal c >>= fun p =>
      if p.rest.kind.isComparison then
        compared p.value p.rest >>= fun p' => pure ⟨p'.value, p'.rest, Nat.le_trans p'.le p.le⟩
      else throw p.rest.unexpected) = Program.literalTest c := by
  rw [Program.literalTest, run_reading]
  refine bare_bind fun p => ?_
  rw [run_kind p.rest rfl]
  dsimp only
  split
  · exact bare_last fun _ => rfl
  · rfl

/-- A test is told by the kind of its first token, and a name by whether it is a keyword. -/
theorem reading_test : reading test = Program.test := by
  funext c
  rw [reading, test, Program.test]
  split
  · next hk =>
    rw [run_kind c hk]
    exact bare_bind fun _ => rfl
  · next hk =>
    rw [run_kind c hk]
    exact bare_last fun _ => rfl
  · next hk =>
    rw [run_kind c hk]
    exact bare_last fun _ => rfl
  · next hk =>
    rw [run_kind c hk]
    exact bare_last fun _ => rfl
  · next hk =>
    rw [run_kind c hk]
    dsimp only
    rw [run_next]
    simp only [Cursor.atKeyword_iff]
    split
    · exact bare_literalTest c
    · exact bare_bind fun _ => bare_last fun _ => rfl
  -- No other kind has a branch of its own, so the program takes its last one as well.
  · next h₁ h₂ h₃ h₄ h₅ =>
    rw [run_kind c rfl]
    refine (bare_literalTest c).trans ?_
    generalize c.kind = k at h₁ h₂ h₃ h₄ h₅
    cases k <;> first | rfl | contradiction

/-- An embedded query that is taken for an operand does not move the place. -/
theorem run_operand (c : Cursor) (a : Anchor) (ss : List Segment) {α : Type}
    (f : Expr → Reader α) :
    (Program.operand a ss >>= f) c = operand c a ss >>= fun e => f e c := by
  change (operand c a ss).map (·, c) >>= (fun p => f p.1 p.2) = _
  cases operand c a ss <;> rfl

/-- An embedded query is an operand only if a comparison follows. -/
theorem reading_queryTest (a : Anchor) : reading (queryTest a) = Program.queryTest a := by
  funext c
  rw [reading, queryTest, Program.queryTest, run_reading]
  refine bare_bind fun p => ?_
  obtain ⟨ss, c₁, h₁⟩ := p
  rw [run_kind c₁ rfl]
  dsimp only
  split
  · rw [run_operand]
    cases operand c₁ a ss with
    | error e => rfl
    | ok left => exact bare_last fun _ => rfl
  · rfl

theorem reading_compared (left : Expr) : reading (compared left) = Program.compared left := by
  funext c
  rw [reading, compared, Program.compared, run_kind c rfl]
  split
  · next h =>
    simp only [h]
    exact bare_bind fun _ => rfl
  · next h =>
    simp only [h]
    rfl

theorem reading_comparable : reading comparable = Program.comparable := by
  funext c
  rw [reading, comparable, Program.comparable]
  split
  · next hk =>
    rw [run_kind c hk]
    refine bare_bind fun p => ?_
    obtain ⟨ss, c₁, h₁⟩ := p
    dsimp only
    rw [Program.operand]
    cases operand c₁ .root ss <;> rfl
  · next hk =>
    rw [run_kind c hk]
    refine bare_bind fun p => ?_
    obtain ⟨ss, c₁, h₁⟩ := p
    dsimp only
    rw [Program.operand]
    cases operand c₁ .current ss <;> rfl
  · next hk =>
    rw [run_kind c hk]
    dsimp only
    rw [run_next]
    simp only [Cursor.atKeyword_iff]
    split
    · rfl
    · exact bare_last fun _ => rfl
  · next h₁ h₂ h₃ =>
    rw [run_kind c rfl]
    generalize c.kind = k at h₁ h₂ h₃
    cases k <;> first | rfl | contradiction

theorem reading_negated : reading negated = Program.negated := by
  funext c
  rw [reading, negated, Program.negated]
  split
  · next hk =>
    rw [run_kind c hk]
    exact bare_last fun _ => rfl
  · next hk =>
    rw [run_kind c hk]
    exact bare_bind fun _ => rfl
  · next hk =>
    rw [run_kind c hk]
    exact bare_bind fun _ => rfl
  · next hk =>
    rw [run_kind c hk]
    dsimp only
    rw [run_next]
    simp only [Cursor.atKeyword_iff]
    split
    · rfl
    · exact bare_last fun _ => rfl
  · next h₁ h₂ h₃ h₄ =>
    rw [run_kind c rfl]
    generalize c.kind = k at h₁ h₂ h₃ h₄
    cases k <;> first | rfl | contradiction

theorem reading_parenthesized : reading parenthesized = Program.parenthesized := by
  funext c
  rw [reading, parenthesized, Program.parenthesized, run_reading]
  exact bare_bind fun _ => bare_bind fun _ => rfl

/-- A call, whose arguments may be missing. -/
theorem reading_call (function : String) : reading (call function) = Program.call function := by
  funext c
  rw [reading, call, Program.call, run_kind c rfl]
  split
  · dsimp only
    rw [run_skip, run_kind c.skip rfl]
    split
    · rfl
    · exact bare_bind fun _ => bare_bind fun _ => rfl
  · rfl

/-- What follows an argument is a comma with another one, or the closing parenthesis. -/
theorem reading_moreArguments : reading moreArguments = Program.moreArguments := by
  funext c
  rw [reading, moreArguments, Program.moreArguments]
  split
  · next hk =>
    rw [run_kind c hk]
    exact bare_bind fun _ => bare_bind fun _ => rfl
  · next hk =>
    rw [run_kind c hk]
    rfl
  · next h₁ h₂ =>
    rw [run_kind c rfl]
    generalize c.kind = k at h₁ h₂
    cases k <;> first | rfl | contradiction

/-- An argument is a comparison if it starts with a literal, and a disjunction otherwise. -/
theorem reading_argument : reading argument = Program.argument := by
  funext c
  rw [reading, argument, Program.argument, run_next]
  simp only [Cursor.atLiteral_iff]
  split
  · exact bare_bind fun _ => bare_last fun _ => rfl
  · rfl

end Phrase

/-- A query is what follows the byte order mark, if there is one. -/
theorem Program.query_eq (c : Cursor) :
    Program.query c =
      Program.unmarkedQuery (if c.kind = .byteOrderMark then c.skip else c) := by
  rw [Program.query, run_kind c rfl]
  split
  · rfl
  · rfl

/-- A query is read from the first of its tokens on, and what was read is returned without the place
behind it. -/
theorem ofTokens_eq (ts : List Token) :
    ofTokens ts = (Program.query ⟨[], ts⟩).map Prod.fst := by
  rw [Program.query_eq]
  unfold ofTokens
  dsimp only
  generalize (if Cursor.kind ⟨[], ts⟩ = .byteOrderMark then Cursor.skip ⟨[], ts⟩
    else (⟨[], ts⟩ : Cursor)) = c
  rw [Program.unmarkedQuery, run_kind c rfl]
  split
  · rw [run_skip, run_reading]
    cases Phrase.segments c.skip with
    | error e => rfl
    | ok p =>
      obtain ⟨ss, d, h⟩ := p
      rw [ok_bind, bare, Except.map, ok_bind, run_kind d rfl]
      dsimp only
      rw [Phrase.expect]
      split
      · rfl
      · rfl
  · rfl

end JsonPath.Query
