import JsonPath.Query.Parser

/-!
# The grammar of queries

The phrases of the language, each as a relation between a list of tokens and what the tokens stand
for. The relations say nothing about how tokens are looked at, or in which order: a list of tokens
is cut into the parts of a phrase in any way that fits. That `Query.ofTokens` finds exactly these
phrases is shown in `Proofs.Grammar.Soundness` and `Proofs.Grammar.Completeness`.

* A disjunction is cut at its *last* `||`, and a conjunction at its last `&&`, so both are grouped
  to the left.
* A negation applies to a *simple test*: an expression in parentheses, a call, or an embedded
  query. The same three stand on their own as tests; everything else that does is a comparison.
* An integer in a filter is one that 64 bits hold, and an index or a bound one that a
  floating-point number holds for sure. What other literals denote is asked of `Token.Literal`.
-/

namespace JsonPath.Query.Grammar

open JsonPath.Text JsonPath.Token

/-! ## Single tokens -/

/-- The token is a word for a literal. -/
def IsKeyword (t : Token) : Prop := t.kind = .name ∧ isKeyword t.text = true

/-- The token is a name that a function can have. -/
def IsFunctionName (t : Token) : Prop := t.kind = .name ∧ isKeyword t.text = false

/-- The token is a literal, whether it is in range or not. -/
def LooksLiteral (t : Token) : Prop :=
  t.kind = .integer ∨ t.kind = .decimal ∨ t.kind = .string ∨ IsKeyword t

/-- A literal in a filter. Integers have 64 bits, and floating-point numbers are finite. -/
inductive IsLiteral : Token → Expr → Prop
  /-- a number without fraction and exponent -/
  | integer {t i} (hk : t.kind = .integer) (hv : ofInteger t.text.toList = Int64.toInt i) :
      IsLiteral t (.integer i)
  /-- a number with a fraction or an exponent -/
  | float {t x} (hk : t.kind = .decimal) (hv : Literal.float? t.text = some x) :
      IsLiteral t (.float x)
  /-- a string between quotes -/
  | string {t} (hk : t.kind = .string) : IsLiteral t (.string (Literal.unescape t.text))
  /-- the word `true` -/
  | true {t} (hk : t.kind = .name) (ht : t.text = "true") : IsLiteral t (.bool Bool.true)
  /-- the word `false` -/
  | false {t} (hk : t.kind = .name) (ht : t.text = "false") : IsLiteral t (.bool Bool.false)
  /-- the word `null` -/
  | null {t} (hk : t.kind = .name) (ht : t.text = "null") : IsLiteral t .null

/-- An index or a bound of a slice: an integer that a floating-point number holds exactly. -/
structure IsIndex (t : Token) (i : Int64) : Prop where
  kind : t.kind = .integer
  value : ofInteger t.text.toList = i.toInt
  low : -Phrase.maxIndex ≤ i.toInt
  high : i.toInt ≤ Phrase.maxIndex

/-- A bound of a slice that may be absent. -/
inductive IsBound : List Token → Option Int64 → Prop
  | absent : IsBound [] none
  | present {t i} (h : IsIndex t i) : IsBound [t] (some i)

/-- The step of a slice with the colon in front of it, or neither. -/
inductive IsStep : List Token → Option Int64 → Prop
  | absent : IsStep [] none
  | present {colon ts b} (hc : colon.kind = .colon) (h : IsBound ts b) : IsStep (colon :: ts) b

/-- What follows one or two dots, apart from brackets. -/
inductive IsDotted : Token → Selector → Prop
  | wildcard {t} (hk : t.kind = .asterisk) : IsDotted t .wildcard
  | name {t} (hk : t.kind = .name) : IsDotted t (.shorthand t.text)

/-- The sign of an embedded query. -/
inductive IsAnchor : Token → Anchor → Prop
  | root {t} (hk : t.kind = .root) : IsAnchor t .root
  | current {t} (hk : t.kind = .current) : IsAnchor t .current

/-! ## Phrases with parts -/

mutual

/-- Any number of segments. -/
inductive IsSegments : List Token → List Segment → Prop
  | nil : IsSegments [] []
  | cons {ts us s ss} (head : IsSegment ts s) (tail : IsSegments us ss) :
      IsSegments (ts ++ us) (s :: ss)

/-- A segment. -/
inductive IsSegment : List Token → Segment → Prop
  | brackets {ts ss} (h : IsSelection ts ss) : IsSegment ts (.brackets .children ss)
  | dot {d t s} (hd : d.kind = .dot) (h : IsDotted t s) : IsSegment [d, t] (.dot .children s)
  | descendantBrackets {d ts ss} (hd : d.kind = .dotDot) (h : IsSelection ts ss) :
      IsSegment (d :: ts) (.brackets .descendants ss)
  | descendantDot {d t s} (hd : d.kind = .dotDot) (h : IsDotted t s) :
      IsSegment [d, t] (.dot .descendants s)

/-- Selectors in brackets. -/
inductive IsSelection : List Token → List Selector → Prop
  | mk {o ts c ss} (ho : o.kind = .openBracket) (h : IsSelectors ts ss)
      (hc : c.kind = .closeBracket) : IsSelection (o :: ts ++ [c]) ss

/-- Selectors with commas between them, at least one. -/
inductive IsSelectors : List Token → List Selector → Prop
  | one {ts s} (h : IsSelector ts s) : IsSelectors ts [s]
  | more {ts comma us s ss} (h : IsSelector ts s) (hc : comma.kind = .comma)
      (tail : IsSelectors us ss) : IsSelectors (ts ++ comma :: us) (s :: ss)

/-- A selector in brackets. -/
inductive IsSelector : List Token → Selector → Prop
  | name {t} (hk : t.kind = .string) : IsSelector [t] (.name (Literal.unescape t.text))
  | wildcard {t} (hk : t.kind = .asterisk) : IsSelector [t] .wildcard
  | index {t i} (h : IsIndex t i) : IsSelector [t] (.index i)
  | slice {ts colon us vs start stop step} (h₁ : IsBound ts start) (hc : colon.kind = .colon)
      (h₂ : IsBound us stop) (h₃ : IsStep vs step) :
      IsSelector (ts ++ colon :: (us ++ vs)) (.slice ⟨start, stop, step⟩)
  | filter {q ts e} (hq : q.kind = .questionMark) (h : IsDisjunction ts e) :
      IsSelector (q :: ts) (.filter e)

/-- Conjunctions with `||` between them, grouped to the left. -/
inductive IsDisjunction : List Token → Expr → Prop
  | one {ts e} (h : IsConjunction ts e) : IsDisjunction ts e
  | more {ts bar us l r} (hl : IsDisjunction ts l) (hb : bar.kind = .disjunction)
      (hr : IsConjunction us r) : IsDisjunction (ts ++ bar :: us) (.binary .or l r)

/-- Tests with `&&` between them, grouped to the left. -/
inductive IsConjunction : List Token → Expr → Prop
  | one {ts e} (h : IsTest ts e) : IsConjunction ts e
  | more {ts amp us l r} (hl : IsConjunction ts l) (ha : amp.kind = .conjunction)
      (hr : IsTest us r) : IsConjunction (ts ++ amp :: us) (.binary .and l r)

/-- A test: a simple test, its negation, or a comparison. -/
inductive IsTest : List Token → Expr → Prop
  | not {n ts e} (hn : n.kind = .negation) (h : IsSimple ts e) : IsTest (n :: ts) (.not e)
  | simple {ts e} (h : IsSimple ts e) : IsTest ts e
  | comparison {ts t us l r op} (hl : IsComparable ts l)
      (ho : Phrase.comparison? t.kind = some op) (hr : IsComparable us r) :
      IsTest (ts ++ t :: us) (.binary (.compare op) l r)

/-- An expression in parentheses, a call, or an embedded query that stands for all its nodes. -/
inductive IsSimple : List Token → Expr → Prop
  | paren {o ts c e} (ho : o.kind = .openParen) (h : IsDisjunction ts e)
      (hc : c.kind = .closeParen) : IsSimple (o :: ts ++ [c]) (.paren e)
  | call {ts f es} (h : IsCall ts f es) : IsSimple ts (.call f es)
  | query {t ts a ss} (ht : IsAnchor t a) (h : IsSegments ts ss) : IsSimple (t :: ts) (.nodes a ss)

/-- A call of a function. -/
inductive IsCall : List Token → String → List Expr → Prop
  | none {n o c} (hn : IsFunctionName n) (ho : o.kind = .openParen) (hc : c.kind = .closeParen) :
      IsCall [n, o, c] n.text []
  | some {n o ts c es} (hn : IsFunctionName n) (ho : o.kind = .openParen) (h : IsArguments ts es)
      (hc : c.kind = .closeParen) : IsCall (n :: o :: (ts ++ [c])) n.text es

/-- Arguments with commas between them, at least one. -/
inductive IsArguments : List Token → List Expr → Prop
  | one {ts e} (h : IsArgument ts e) : IsArguments ts [e]
  | more {ts comma us e es} (h : IsArgument ts e) (hc : comma.kind = .comma)
      (tail : IsArguments us es) : IsArguments (ts ++ comma :: us) (e :: es)

/-- An argument: a literal, a comparison of a literal with an operand, or an expression that does
not start with a literal. -/
inductive IsArgument : List Token → Expr → Prop
  | literal {t e} (h : IsLiteral t e) : IsArgument [t] e
  | comparison {t u us l r op} (hl : IsLiteral t l) (ho : Phrase.comparison? u.kind = some op)
      (hr : IsComparable us r) : IsArgument (t :: u :: us) (.binary (.compare op) l r)
  | expr {t ts e} (ht : ¬ LooksLiteral t) (h : IsDisjunction (t :: ts) e) : IsArgument (t :: ts) e

/-- An operand of a comparison: a literal, a call, or an embedded query whose segments are all
singular, which stands for its single node. -/
inductive IsComparable : List Token → Expr → Prop
  | literal {t e} (h : IsLiteral t e) : IsComparable [t] e
  | call {ts f es} (h : IsCall ts f es) : IsComparable ts (.call f es)
  | query {t ts a ss} (ht : IsAnchor t a) (h : IsSegments ts ss)
      (hs : ss.all Segment.isSingular = Bool.true) : IsComparable (t :: ts) (.single a ss)

end

/-! ## The front of a phrase

Expressions are not empty, and none starts with a closing parenthesis: so a call without arguments
is told from any other by the token behind the opening one. Whether an expression starts with a
literal can be seen from how it is built. -/

/-- Whether the text of an expression starts with a literal. -/
def startsWithLiteral : Expr → Bool
  | .integer _ | .float _ | .string _ | .bool _ | .null => Bool.true
  | .binary _ l _ => startsWithLiteral l
  | _ => Bool.false

/-- A phrase for the expression can start with the token. -/
structure Opens (t : Token) (e : Expr) : Prop where
  kind_ne : t.kind ≠ .closeParen
  looksLiteral_iff : LooksLiteral t ↔ startsWithLiteral e = Bool.true

/-- A literal opens an expression that starts with one. -/
theorem IsLiteral.opens {t : Token} {e : Expr} (h : IsLiteral t e) : Opens t e := by
  cases h with
  | integer hk => exact ⟨hk ▸ by decide, iff_of_true (.inl hk) rfl⟩
  | float hk => exact ⟨hk ▸ by decide, iff_of_true (.inr (.inl hk)) rfl⟩
  | string hk => exact ⟨hk ▸ by decide, iff_of_true (.inr (.inr (.inl hk))) rfl⟩
  | true hk ht => exact ⟨hk ▸ by decide, iff_of_true (.inr (.inr (.inr ⟨hk, ht ▸ rfl⟩))) rfl⟩
  | false hk ht => exact ⟨hk ▸ by decide, iff_of_true (.inr (.inr (.inr ⟨hk, ht ▸ rfl⟩))) rfl⟩
  | null hk ht => exact ⟨hk ▸ by decide, iff_of_true (.inr (.inr (.inr ⟨hk, ht ▸ rfl⟩))) rfl⟩

/-- A token of a kind that no literal has opens what does not start with a literal. -/
theorem Opens.of_kind {t : Token} {e : Expr} {k : Kind} (hk : t.kind = k)
    (hne : k ≠ .closeParen ∧ k ≠ .integer ∧ k ≠ .decimal ∧ k ≠ .string ∧ k ≠ .name)
    (he : startsWithLiteral e = Bool.false) : Opens t e := by
  subst hk
  refine ⟨hne.1, iff_of_false ?_ (by rw [he]; exact Bool.false_ne_true)⟩
  rintro (h | h | h | ⟨h, -⟩)
  · exact hne.2.1 h
  · exact hne.2.2.1 h
  · exact hne.2.2.2.1 h
  · exact hne.2.2.2.2 h

/-- An anchor opens an expression that starts with no literal. -/
theorem IsAnchor.opens {t : Token} {a : Anchor} {e : Expr} (h : IsAnchor t a)
    (he : startsWithLiteral e = Bool.false) : Opens t e := by
  cases h with
  | root hk => exact .of_kind hk (by decide) he
  | current hk => exact .of_kind hk (by decide) he

/-- The name of a function opens a call. -/
theorem IsFunctionName.opens {t : Token} {f : String} {es : List Expr} (h : IsFunctionName t) :
    Opens t (.call f es) := by
  refine ⟨h.1 ▸ by decide, iff_of_false ?_ Bool.false_ne_true⟩
  rintro (hk | hk | hk | ⟨-, hw⟩)
  · exact nomatch h.1.symm.trans hk
  · exact nomatch h.1.symm.trans hk
  · exact nomatch h.1.symm.trans hk
  · rw [h.2] at hw
    cases hw

theorem IsCall.exists_cons {ts : List Token} {f : String} {es : List Expr} (h : IsCall ts f es) :
    ∃ t us, ts = t :: us ∧ Opens t (.call f es) := by
  cases h with
  | none hn => exact ⟨_, _, rfl, hn.opens⟩
  | some hn => exact ⟨_, _, rfl, hn.opens⟩

/-- A simple expression has a first token, which opens it; so does every other phrase for an
expression, as the theorems that follow say. -/
theorem IsSimple.exists_cons {ts : List Token} {e : Expr} (h : IsSimple ts e) :
    ∃ t us, ts = t :: us ∧ Opens t e := by
  cases h with
  | paren ho => exact ⟨_, _, rfl, .of_kind ho (by decide) rfl⟩
  | call h => exact h.exists_cons
  | query ht => exact ⟨_, _, rfl, ht.opens rfl⟩

/-- An operand has a first token, which opens it. -/
theorem IsComparable.exists_cons {ts : List Token} {e : Expr} (h : IsComparable ts e) :
    ∃ t us, ts = t :: us ∧ Opens t e := by
  cases h with
  | literal h => exact ⟨_, _, rfl, h.opens⟩
  | call h => exact h.exists_cons
  | query ht => exact ⟨_, _, rfl, ht.opens rfl⟩

/-- A phrase with an operator starts as its left part does. -/
theorem Opens.binary {t : Token} {l : Expr} (h : Opens t l) (op : Operator) (r : Expr) :
    Opens t (.binary op l r) := ⟨h.kind_ne, h.looksLiteral_iff⟩

/-- A test is opened by its operand or its sign. -/
theorem IsTest.exists_cons {ts : List Token} {e : Expr} (h : IsTest ts e) :
    ∃ t us, ts = t :: us ∧ Opens t e := by
  cases h with
  | not hn => exact ⟨_, _, rfl, .of_kind hn (by decide) rfl⟩
  | simple h => exact h.exists_cons
  | comparison hl =>
    obtain ⟨t, us, rfl, ht⟩ := hl.exists_cons
    exact ⟨_, _, rfl, ht.binary _ _⟩

theorem IsConjunction.exists_cons {ts : List Token} {e : Expr} (h : IsConjunction ts e) :
    ∃ t us, ts = t :: us ∧ Opens t e := by
  match h with
  | .one h => exact h.exists_cons
  | .more hl _ _ =>
    obtain ⟨t, us, rfl, ht⟩ := hl.exists_cons
    exact ⟨_, _, rfl, ht.binary _ _⟩

/-- A disjunction is opened by its first part. -/
theorem IsDisjunction.exists_cons {ts : List Token} {e : Expr} (h : IsDisjunction ts e) :
    ∃ t us, ts = t :: us ∧ Opens t e := by
  match h with
  | .one h => exact h.exists_cons
  | .more hl _ _ =>
    obtain ⟨t, us, rfl, ht⟩ := hl.exists_cons
    exact ⟨_, _, rfl, ht.binary _ _⟩

/-- An argument is opened by its first token. -/
theorem IsArgument.exists_cons {ts : List Token} {e : Expr} (h : IsArgument ts e) :
    ∃ t us, ts = t :: us ∧ Opens t e := by
  cases h with
  | literal h => exact ⟨_, _, rfl, h.opens⟩
  | comparison hl => exact ⟨_, _, rfl, hl.opens.binary _ _⟩
  | expr _ h => exact h.exists_cons

/-! ## Queries -/

/-- A query from its root sign on, up to the end of the input. -/
inductive IsUnmarked : List Token → Query → Prop
  | mk {r ts e ss} (hr : r.kind = .root) (h : IsSegments ts ss) (he : e.kind = .endOfInput) :
      IsUnmarked (r :: ts ++ [e]) ⟨ss⟩

/-- A query, with or without a byte order mark in front of it. -/
inductive IsQuery : List Token → Query → Prop
  | unmarked {ts q} (h : IsUnmarked ts q) : IsQuery ts q
  | marked {m ts q} (hm : m.kind = .byteOrderMark) (h : IsUnmarked ts q) : IsQuery (m :: ts) q

end JsonPath.Query.Grammar
