import JsonPath.Query
import JsonPath.Token.Literal

/-!
# Reading queries

A query is read from its tokens by descent: one function for each kind of phrase, and one for the
rest of each list. The first token that does not fit decides what is reported.

A `Cursor` is a place among the tokens. What a function returns carries the proof that no token was
given back (`Parsed.le`), and whoever calls another function on the same tokens is of a higher rank.
So every call descends in the number of tokens left, or in rank.
-/

namespace JsonPath.Query

open JsonPath.Text JsonPath.Token

/-! ## Errors -/

/-- Why a text is no query. -/
inductive ParseError.Cause where
  /-- the token does not fit here -/
  | unexpectedToken
  /-- the text ends too early -/
  | unexpectedEnd
  /-- the number is out of range -/
  | invalidLiteral
  /-- a query that may find several nodes is an operand of a comparison -/
  | nonSingular
  /-- the text does not start with `$` -/
  | missingRoot
deriving Repr, DecidableEq

/-- How messages name a cause. -/
def ParseError.Cause.describe : ParseError.Cause → String
  | unexpectedToken => "Unexpected token"
  | unexpectedEnd => "Unexpected end of input"
  | invalidLiteral => "Invalid literal"
  | nonSingular => "Non-singular query used in comparison"
  | missingRoot => "Query must start with `$`"

/-- An error: its cause, and the text and the place of the token at fault, counted from zero. -/
structure ParseError where
  cause : ParseError.Cause
  token : String
  position : Nat
deriving Repr, DecidableEq

/-- The message for an error. -/
def ParseError.message (e : ParseError) : String :=
  e.cause.describe ++ " at token " ++ .ofList (digits 10 e.position)
    ++ (if e.token.isEmpty then "" else ": " ++ quoted e.token)

/-! ## Cursors -/

/-- A place among tokens: those before it, the last one first, and those behind it. -/
structure Cursor where
  before : List Token
  after : List Token
deriving Repr

namespace Cursor

/-- The number of tokens that are left. -/
def size (c : Cursor) : Nat := c.after.length

/-- The next token. -/
def token (c : Cursor) : Token := c.after.headD .endOfInput

/-- The kind of the next token. -/
def kind (c : Cursor) : Kind := c.token.kind

/-- The place behind the next token. -/
def skip (c : Cursor) : Cursor :=
  match c.after with
  | [] => c
  | t :: ts => ⟨t :: c.before, ts⟩

/-- The number of tokens before the place. -/
def position (c : Cursor) : Nat := c.before.length

/-- The token before the place. -/
def last (c : Cursor) : Token := c.before.headD .endOfInput

/-- A token other than the end of the input is there to be skipped. -/
theorem size_skip_lt {c : Cursor} {k : Kind} (h : c.kind = k) (hk : k ≠ .endOfInput) :
    c.skip.size < c.size := by
  obtain ⟨before, after⟩ := c
  cases after with
  | nil => exact absurd h.symm hk
  | cons t ts => exact Nat.lt_succ_self _

theorem size_skip_le (c : Cursor) : c.skip.size ≤ c.size := by
  obtain ⟨before, after⟩ := c
  cases after with
  | nil => exact Nat.le_refl _
  | cons t ts => exact Nat.le_succ _

/-- An error about the next token. -/
def error (c : Cursor) (cause : ParseError.Cause) : ParseError := ⟨cause, c.token.text, c.position⟩

/-- The error that the next token does not fit. -/
def unexpected (c : Cursor) : ParseError :=
  c.error (if c.kind = .endOfInput then .unexpectedEnd else .unexpectedToken)

/-- Whether the next token is a word for a literal. -/
def atKeyword (c : Cursor) : Bool := c.kind == .name && isKeyword c.token.text

/-- Whether the next token is a literal. -/
def atLiteral (c : Cursor) : Bool :=
  c.kind == .integer || c.kind == .decimal || c.kind == .string || c.atKeyword

end Cursor

/-- What was read from a place on, and the place behind it. -/
structure Parsed (c : Cursor) (α : Type) where
  value : α
  rest : Cursor
  le : rest.size ≤ c.size

/-- The outcome of reading from a place on. -/
abbrev Outcome (α : Type) (c : Cursor) := Except ParseError (Parsed c α)

namespace Phrase

/-! ## Phrases without parts -/

/-- The bounds of indices: integers that a floating-point number can hold without a doubt. -/
def maxIndex : Int := Nat.pow 2 53 - 1

/-- The comparison that a token stands for. -/
def comparison? : Kind → Option Comparison
  | .equal => some .equal
  | .notEqual => some .notEqual
  | .less => some .less
  | .lessEqual => some .lessEqual
  | .greater => some .greater
  | .greaterEqual => some .greaterEqual
  | _ => none

/-- The end of the input is no comparison operator. -/
theorem comparison?_ne_endOfInput {k : Kind} {o : Comparison} (h : comparison? k = some o) :
    k ≠ .endOfInput := by
  rintro rfl; cases h

/-- Reads a token of a given kind. -/
def expect (c : Cursor) (k : Kind) : Outcome Unit c :=
  if c.kind = k then .ok ⟨(), c.skip, c.size_skip_le⟩ else .error c.unexpected

/-- The literal that a token denotes, if the token is well formed and in range. -/
def literalOf? (t : Token) : Option Expr :=
  match t.kind with
  | .integer => (Literal.integer? t.text).map .integer
  | .decimal => (Literal.float? t.text).map .float
  | .string => some (.string (Literal.unescape t.text))
  | _ =>
    if t.text == "true" then some (.bool true)
    else if t.text == "false" then some (.bool false)
    else some .null

/-- Reads a literal. -/
def literal (c : Cursor) : Outcome Expr c :=
  if c.atLiteral then
    match literalOf? c.token with
    | some e => .ok ⟨e, c.skip, c.size_skip_le⟩
    | none => .error (c.error .invalidLiteral)
  else .error c.unexpected

/-- Reads an index or a bound of a slice, if there is one. -/
def bound (c : Cursor) : Outcome (Option Int64) c :=
  if c.kind = .integer then
    match Literal.integer? c.token.text with
    | some i =>
      if -maxIndex ≤ i.toInt ∧ i.toInt ≤ maxIndex then .ok ⟨some i, c.skip, c.size_skip_le⟩
      else .error (c.error .invalidLiteral)
    | none => .error (c.error .invalidLiteral)
  else .ok ⟨none, c, Nat.le_refl _⟩

/-- Reads the step of a slice with the colon in front of it, if there is one. -/
def stepBound (c : Cursor) : Outcome (Option Int64) c :=
  if c.kind = .colon then do
    let ⟨step, rest, h⟩ ← bound c.skip
    return ⟨step, rest, Nat.le_trans h c.size_skip_le⟩
  else .ok ⟨none, c, Nat.le_refl _⟩

/-- Reads an index or a slice. -/
def indexOrSlice (c : Cursor) : Outcome Selector c := do
  let ⟨start, c₁, h₁⟩ ← bound c
  if c₁.kind = .colon then
    let ⟨stop, c₂, h₂⟩ ← bound c₁.skip
    let ⟨step, c₃, h₃⟩ ← stepBound c₂
    return ⟨.slice ⟨start, stop, step⟩, c₃,
      Nat.le_trans h₃ (Nat.le_trans h₂ (Nat.le_trans c₁.size_skip_le h₁))⟩
  else match start with
    | some i => return ⟨.index i, c₁, h₁⟩
    | none => throw c₁.unexpected

/-- Reads what follows one or two dots, apart from brackets. -/
def dotted (c : Cursor) : Outcome Selector c :=
  match c.kind with
  | .asterisk => .ok ⟨.wildcard, c.skip, c.size_skip_le⟩
  | .name => .ok ⟨.shorthand c.token.text, c.skip, c.size_skip_le⟩
  | _ => .error c.unexpected

/-- An embedded query as an operand of a comparison, when its last token is before the given
place. -/
def operand (c : Cursor) (a : Anchor) (ss : List Segment) : Except ParseError Expr :=
  if ss.all Segment.isSingular then .ok (.single a ss)
  else .error ⟨.nonSingular, c.last.text, c.position - 1⟩

/-! ## Phrases with parts -/

mutual

/-- Reads segments as long as there are any. -/
def segments (c : Cursor) : Outcome (List Segment) c :=
  match h : c.kind with
  | .openBracket => do
    have hc := Cursor.size_skip_lt h (by decide)
    let ⟨ss, c₁, h₁⟩ ← selection c.skip
    let ⟨more, c₂, h₂⟩ ← segments c₁
    return ⟨.brackets .children ss :: more, c₂, by omega⟩
  | .dot => do
    have hc := Cursor.size_skip_lt h (by decide)
    let ⟨s, c₁, h₁⟩ ← dotted c.skip
    let ⟨more, c₂, h₂⟩ ← segments c₁
    return ⟨.dot .children s :: more, c₂, by omega⟩
  | .dotDot => do
    have hc := Cursor.size_skip_lt h (by decide)
    if h' : c.skip.kind = .openBracket then
      have hc' := Cursor.size_skip_lt h' (by decide)
      let ⟨ss, c₁, h₁⟩ ← selection c.skip.skip
      let ⟨more, c₂, h₂⟩ ← segments c₁
      return ⟨.brackets .descendants ss :: more, c₂, by omega⟩
    else
      let ⟨s, c₁, h₁⟩ ← dotted c.skip
      let ⟨more, c₂, h₂⟩ ← segments c₁
      return ⟨.dot .descendants s :: more, c₂, by omega⟩
  | _ => return ⟨[], c, Nat.le_refl _⟩
termination_by 6 * c.size

/-- Reads selectors behind an opening bracket, and the closing one. -/
def selection (c : Cursor) : Outcome (List Selector) c := do
  let ⟨s, c₁, h₁⟩ ← selector c
  let ⟨ss, c₂, h₂⟩ ← moreSelectors c₁
  return ⟨s :: ss, c₂, by omega⟩
termination_by 6 * c.size + 1

/-- Reads the selectors that follow the first, and the closing bracket. -/
def moreSelectors (c : Cursor) : Outcome (List Selector) c :=
  match h : c.kind with
  | .comma => do
    have hc := Cursor.size_skip_lt h (by decide)
    let ⟨s, c₁, h₁⟩ ← selector c.skip
    let ⟨ss, c₂, h₂⟩ ← moreSelectors c₁
    return ⟨s :: ss, c₂, by omega⟩
  | .closeBracket => return ⟨[], c.skip, c.size_skip_le⟩
  | _ => throw c.unexpected
termination_by 6 * c.size

/-- Reads a selector. -/
def selector (c : Cursor) : Outcome Selector c :=
  match h : c.kind with
  | .string => return ⟨.name (Literal.unescape c.token.text), c.skip, c.size_skip_le⟩
  | .asterisk => return ⟨.wildcard, c.skip, c.size_skip_le⟩
  | .integer => indexOrSlice c
  | .colon => indexOrSlice c
  | .questionMark => do
    have hc := Cursor.size_skip_lt h (by decide)
    let ⟨e, c₁, h₁⟩ ← disjunction c.skip
    return ⟨.filter e, c₁, by omega⟩
  | _ => throw c.unexpected
termination_by 6 * c.size

/-- Reads an expression: conjunctions with `||` between them. -/
def disjunction (c : Cursor) : Outcome Expr c := do
  let ⟨e, c₁, h₁⟩ ← conjunction c
  let ⟨e', c₂, h₂⟩ ← moreDisjuncts e c₁
  return ⟨e', c₂, by omega⟩
termination_by 6 * c.size + 3

/-- Reads the conjunctions that follow the first. -/
def moreDisjuncts (left : Expr) (c : Cursor) : Outcome Expr c :=
  if h : c.kind = .disjunction then do
    have hc := Cursor.size_skip_lt h (by decide)
    let ⟨right, c₁, h₁⟩ ← conjunction c.skip
    let ⟨e, c₂, h₂⟩ ← moreDisjuncts (.binary .or left right) c₁
    return ⟨e, c₂, by omega⟩
  else return ⟨left, c, Nat.le_refl _⟩
termination_by 6 * c.size

/-- Reads a conjunction: tests with `&&` between them. -/
def conjunction (c : Cursor) : Outcome Expr c := do
  let ⟨e, c₁, h₁⟩ ← test c
  let ⟨e', c₂, h₂⟩ ← moreConjuncts e c₁
  return ⟨e', c₂, by omega⟩
termination_by 6 * c.size + 2

/-- Reads the tests that follow the first. -/
def moreConjuncts (left : Expr) (c : Cursor) : Outcome Expr c :=
  if h : c.kind = .conjunction then do
    have hc := Cursor.size_skip_lt h (by decide)
    let ⟨right, c₁, h₁⟩ ← test c.skip
    let ⟨e, c₂, h₂⟩ ← moreConjuncts (.binary .and left right) c₁
    return ⟨e, c₂, by omega⟩
  else return ⟨left, c, Nat.le_refl _⟩
termination_by 6 * c.size

/-- Reads a test: a negation, an expression in parentheses, a call, an embedded query, or a
comparison. -/
def test (c : Cursor) : Outcome Expr c :=
  match h : c.kind with
  | .negation => do
    have hc := Cursor.size_skip_lt h (by decide)
    let ⟨e, c₁, h₁⟩ ← negated c.skip
    return ⟨.not e, c₁, by omega⟩
  | .openParen => do
    have hc := Cursor.size_skip_lt h (by decide)
    let ⟨e, c₁, h₁⟩ ← parenthesized c.skip
    return ⟨e, c₁, by omega⟩
  | .root => do
    have hc := Cursor.size_skip_lt h (by decide)
    let ⟨e, c₁, h₁⟩ ← queryTest .root c.skip
    return ⟨e, c₁, by omega⟩
  | .current => do
    have hc := Cursor.size_skip_lt h (by decide)
    let ⟨e, c₁, h₁⟩ ← queryTest .current c.skip
    return ⟨e, c₁, by omega⟩
  | .name =>
    if c.atKeyword then do
      let ⟨e, c₁, h₁⟩ ← literal c
      if c₁.kind.isComparison then
        let ⟨e', c₂, h₂⟩ ← compared e c₁
        return ⟨e', c₂, by omega⟩
      else throw c₁.unexpected
    else do
      have hc := Cursor.size_skip_lt h (by decide)
      let ⟨e, c₁, h₁⟩ ← call c.token.text c.skip
      let ⟨e', c₂, h₂⟩ ← compared e c₁
      return ⟨e', c₂, by omega⟩
  | _ => do
    let ⟨e, c₁, h₁⟩ ← literal c
    if c₁.kind.isComparison then
      let ⟨e', c₂, h₂⟩ ← compared e c₁
      return ⟨e', c₂, by omega⟩
    else throw c₁.unexpected
termination_by 6 * c.size + 1

/-- Reads an embedded query behind its anchor. It is a test of its own, unless a comparison
follows. -/
def queryTest (a : Anchor) (c : Cursor) : Outcome Expr c := do
  let ⟨ss, c₁, h₁⟩ ← segments c
  if c₁.kind.isComparison then
    let left ← operand c₁ a ss
    let ⟨e, c₂, h₂⟩ ← compared left c₁
    return ⟨e, c₂, by omega⟩
  else return ⟨.nodes a ss, c₁, h₁⟩
termination_by 6 * c.size + 1

/-- Reads a comparison behind its left operand. Without one, the operand stands on its own. -/
def compared (left : Expr) (c : Cursor) : Outcome Expr c :=
  match h : comparison? c.kind with
  | some op => do
    have hc := Cursor.size_skip_lt rfl (comparison?_ne_endOfInput h)
    let ⟨right, c₁, h₁⟩ ← comparable c.skip
    return ⟨.binary (.compare op) left right, c₁, by omega⟩
  | none => return ⟨left, c, Nat.le_refl _⟩
termination_by 6 * c.size

/-- Reads an operand of a comparison: a call, an embedded query, or a literal. -/
def comparable (c : Cursor) : Outcome Expr c :=
  match h : c.kind with
  | .root => do
    have hc := Cursor.size_skip_lt h (by decide)
    let ⟨ss, c₁, h₁⟩ ← segments c.skip
    return ⟨← operand c₁ .root ss, c₁, by omega⟩
  | .current => do
    have hc := Cursor.size_skip_lt h (by decide)
    let ⟨ss, c₁, h₁⟩ ← segments c.skip
    return ⟨← operand c₁ .current ss, c₁, by omega⟩
  | .name =>
    if c.atKeyword then literal c
    else do
      have hc := Cursor.size_skip_lt h (by decide)
      let ⟨e, c₁, h₁⟩ ← call c.token.text c.skip
      return ⟨e, c₁, by omega⟩
  | _ => literal c
termination_by 6 * c.size

/-- Reads what can be negated: an expression in parentheses, a call, or an embedded query. -/
def negated (c : Cursor) : Outcome Expr c :=
  match h : c.kind with
  | .openParen => do
    have hc := Cursor.size_skip_lt h (by decide)
    let ⟨e, c₁, h₁⟩ ← parenthesized c.skip
    return ⟨e, c₁, by omega⟩
  | .root => do
    have hc := Cursor.size_skip_lt h (by decide)
    let ⟨ss, c₁, h₁⟩ ← segments c.skip
    return ⟨.nodes .root ss, c₁, by omega⟩
  | .current => do
    have hc := Cursor.size_skip_lt h (by decide)
    let ⟨ss, c₁, h₁⟩ ← segments c.skip
    return ⟨.nodes .current ss, c₁, by omega⟩
  | .name =>
    if c.atKeyword then throw c.unexpected
    else do
      have hc := Cursor.size_skip_lt h (by decide)
      let ⟨e, c₁, h₁⟩ ← call c.token.text c.skip
      return ⟨e, c₁, by omega⟩
  | _ => throw c.unexpected
termination_by 6 * c.size

/-- Reads an expression behind an opening parenthesis, and the closing one. -/
def parenthesized (c : Cursor) : Outcome Expr c := do
  let ⟨e, c₁, h₁⟩ ← disjunction c
  let ⟨_, c₂, h₂⟩ ← expect c₁ .closeParen
  return ⟨.paren e, c₂, by omega⟩
termination_by 6 * c.size + 4

/-- Reads the arguments of a call behind its name. -/
def call (function : String) (c : Cursor) : Outcome Expr c :=
  if h : c.kind = .openParen then do
    have hc := Cursor.size_skip_lt h (by decide)
    if c.skip.kind = .closeParen then
      return ⟨.call function [], c.skip.skip, Nat.le_trans c.skip.size_skip_le c.size_skip_le⟩
    else
      let ⟨e, c₁, h₁⟩ ← argument c.skip
      let ⟨es, c₂, h₂⟩ ← moreArguments c₁
      return ⟨.call function (e :: es), c₂, by omega⟩
  else throw c.unexpected
termination_by 6 * c.size

/-- Reads the arguments that follow the first, and the closing parenthesis. -/
def moreArguments (c : Cursor) : Outcome (List Expr) c :=
  match h : c.kind with
  | .comma => do
    have hc := Cursor.size_skip_lt h (by decide)
    let ⟨e, c₁, h₁⟩ ← argument c.skip
    let ⟨es, c₂, h₂⟩ ← moreArguments c₁
    return ⟨e :: es, c₂, by omega⟩
  | .closeParen => return ⟨[], c.skip, c.size_skip_le⟩
  | _ => throw c.unexpected
termination_by 6 * c.size

/-- Reads an argument: a literal, which may be compared, or any expression. -/
def argument (c : Cursor) : Outcome Expr c :=
  if c.atLiteral then do
    let ⟨e, c₁, h₁⟩ ← literal c
    let ⟨e', c₂, h₂⟩ ← compared e c₁
    return ⟨e', c₂, by omega⟩
  else disjunction c
termination_by 6 * c.size + 4

end

end Phrase

/-! ## Queries -/

/-- Reads a query from its tokens. A byte order mark in front of it is passed over. -/
def ofTokens (ts : List Token) : Except ParseError Query := do
  let start : Cursor := ⟨[], ts⟩
  let c := if start.kind = .byteOrderMark then start.skip else start
  if c.kind = .root then
    let ⟨ss, c₁, _⟩ ← Phrase.segments c.skip
    let _ ← Phrase.expect c₁ .endOfInput
    return ⟨ss⟩
  else throw (c.error .missingRoot)

/-- Reads a query from a text in UTF-8. -/
def ofBytes (octets : List UInt8) : Except ParseError Query := ofTokens (tokenize octets)

/-- Reads a query from a text. -/
def ofText (text : String) : Except ParseError Query := ofBytes text.toUTF8.toList

end JsonPath.Query
