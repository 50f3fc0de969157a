import JsonPath.Proofs.Grammar
import JsonPath.Proofs.Spelling

/-!
# What the text of a built query says

A query that is built by hand may nest its operators in any way, but its text is written without
regard to that: nothing but an explicit pair of parentheses keeps an operand together. Whoever reads
the text groups it by how tightly the operators bind. `reread` is the query that the text of a query
says: an `||` below an `&&` comes up, and a negation goes down to the first test of its operand.

`reread` walks through an expression from left to right, as a reader of its text does. In front of
each test it holds what is complete by then (`Front`), and behind it the chain so far (`Chain`).
-/

namespace JsonPath.Query

open JsonPath.Text JsonPath.Token

/-! ## Chains of operators -/

/-- What stands in front of a test: the disjuncts and the conjuncts that are complete, and whether
the test is negated. -/
structure Front where
  disjuncts : Option Expr
  conjuncts : Option Expr
  negated : Bool

/-- What stands up to the end of a test: the disjuncts that are complete, and the conjunction that
the test belongs to. -/
structure Chain where
  disjuncts : Option Expr
  conjunction : Expr

/-- Two operands, or the second alone. -/
def joined (op : Operator) (left : Option Expr) (right : Expr) : Expr :=
  match left with
  | none => right
  | some l => .binary op l right

namespace Front

/-- Nothing stands in front of the first test. -/
def start : Front := ⟨none, none, false⟩

/-- The next test is negated. -/
def negate (s : Front) : Front := { s with negated := true }

/-- A test as it counts behind a front. -/
def signed (s : Front) (t : Expr) : Expr := if s.negated then .not t else t

/-- The chain with one more test. -/
def take (s : Front) (t : Expr) : Chain := ⟨s.disjuncts, joined .and s.conjuncts (s.signed t)⟩

end Front

namespace Chain

/-- The expression that the whole chain stands for. -/
def whole (k : Chain) : Expr := joined .or k.disjuncts k.conjunction

/-- What stands in front of the test behind `||`. -/
def or (k : Chain) : Front := ⟨some k.whole, none, false⟩

/-- What stands in front of the test behind `&&`. -/
def and (k : Chain) : Front := ⟨k.disjuncts, some k.conjunction, false⟩

end Chain

/-! ## Rereading -/

mutual

/-- The selector that the text of a selector in brackets says. -/
def Selector.reread : Selector → Selector
  | .name s => .name s
  | .shorthand s => .name s
  | .wildcard => .wildcard
  | .index i => .index i
  | .slice s => .slice s
  | .filter e => .filter (e.regroup .start).whole

/-- The segment that the text of a segment says. -/
def Segment.reread : Segment → Segment
  | .dot reach (.shorthand s) => .dot reach (.shorthand s)
  | .dot reach .wildcard => .dot reach .wildcard
  | .dot reach s => .brackets reach [s.reread]
  | .brackets reach ss => .brackets reach (rereadSelectors ss)

/-- The selectors that the texts of selectors say. -/
def rereadSelectors : List Selector → List Selector
  | [] => []
  | s :: ss => s.reread :: rereadSelectors ss

/-- The segments that the texts of segments say. -/
def rereadSegments : List Segment → List Segment
  | [] => []
  | s :: ss => s.reread :: rereadSegments ss

/-- The chain up to the end of an expression, behind a front. -/
def Expr.regroup : Expr → Front → Chain
  | .binary .or l r, s => r.regroup (l.regroup s).or
  | .binary .and l r, s => r.regroup (l.regroup s).and
  | .not e, s => e.regroup s.negate
  | .binary (.compare c) l r, s =>
    s.take (.binary (.compare c) (l.regroup .start).whole (r.regroup .start).whole)
  | .paren e, s => s.take (.paren (e.regroup .start).whole)
  | .call f es, s => s.take (.call f (rereadExprs es))
  | .single a ss, s => s.take (.single a (rereadSegments ss))
  | .nodes a ss, s => s.take (.nodes a (rereadSegments ss))
  | .integer n, s => s.take (.integer n)
  | .float x, s => s.take (.float x)
  | .string t, s => s.take (.string t)
  | .bool b, s => s.take (.bool b)
  | .null, s => s.take .null

/-- The expressions that the texts of expressions say. -/
def rereadExprs : List Expr → List Expr
  | [] => []
  | e :: es => (e.regroup .start).whole :: rereadExprs es

end

/-- The expression that the text of an expression says. -/
def Expr.reread (e : Expr) : Expr := (e.regroup .start).whole

/-- The query that the text of a query says. -/
def reread (q : Query) : Query := ⟨rereadSegments q.segments⟩

/-! ## Built queries

In a built query every expression stands where expressions of its form belong. -/

/-- Where an expression stands. -/
inductive Role where
  /-- as a test, or as an operand of a connective -/
  | test
  /-- as an operand of a comparison -/
  | operand
  /-- as an argument of a function -/
  | argument
deriving DecidableEq

mutual

/-- Whether all expressions in a selector stand where they belong. -/
def Selector.isBuilt : Selector → Bool
  | .filter e => e.isBuilt .test
  | _ => true

/-- Whether all expressions in a segment stand where they belong. -/
def Segment.isBuilt : Segment → Bool
  | .dot _ s => s.isBuilt
  | .brackets _ ss => areBuiltSelectors ss

/-- Whether all expressions in selectors stand where they belong. -/
def areBuiltSelectors : List Selector → Bool
  | [] => true
  | s :: ss => s.isBuilt && areBuiltSelectors ss

/-- Whether all expressions in segments stand where they belong. -/
def areBuiltSegments : List Segment → Bool
  | [] => true
  | s :: ss => s.isBuilt && areBuiltSegments ss

/-- Whether an expression and all that is in it stand where they belong. Connectives join tests,
comparisons compare literals, calls and single nodes, and arguments are literals and tests. No
function has the name of a literal. -/
def Expr.isBuilt : Expr → Role → Bool
  | .binary .or l r, role => role != .operand && l.isBuilt .test && r.isBuilt .test
  | .binary .and l r, role => role != .operand && l.isBuilt .test && r.isBuilt .test
  | .not e, role => role != .operand && e.isBuilt .test
  | .binary (.compare _) l r, role =>
    role != .operand && l.isBuilt .operand && r.isBuilt .operand
  | .paren e, role => role != .operand && e.isBuilt .test
  | .call f es, _ => !isKeyword f && areBuiltArguments es
  | .single _ ss, role => role == .operand && areBuiltSegments ss
  | .nodes _ ss, role => role != .operand && areBuiltSegments ss
  | _, role => role != .test

/-- Whether all arguments are such. -/
def areBuiltArguments : List Expr → Bool
  | [] => true
  | e :: es => e.isBuilt .argument && areBuiltArguments es

end

/-- Whether a query is built from parts that are valid where they stand. -/
def isBuilt (q : Query) : Bool := areSpellableSegments q.segments && areBuiltSegments q.segments

/-! ## Readable queries -/

/-- Whether an integer can be an index or a bound. -/
def isInRange (i : Int64) : Bool :=
  decide (-Phrase.maxIndex ≤ i.toInt) && decide (i.toInt ≤ Phrase.maxIndex)

/-- Whether all bounds of a slice can be such. -/
def Slice.isInRange (s : Slice) : Bool :=
  s.start.all Query.isInRange && s.stop.all Query.isInRange && s.step.all Query.isInRange

/-- Whether the first test of an expression is one that can be negated. -/
def Expr.startsSimple : Expr → Bool
  | .binary .or l _ => l.startsSimple
  | .binary .and l _ => l.startsSimple
  | .paren _ => true
  | .call _ _ => true
  | .nodes _ _ => true
  | _ => false

/-- Whether an expression that starts with a literal is no more than a comparison of it. -/
def Expr.standsAlone : Expr → Bool
  | .binary .or l _ => !Grammar.startsWithLiteral l
  | .binary .and l _ => !Grammar.startsWithLiteral l
  | _ => true

mutual

/-- Whether the text of a selector in brackets says a selector. -/
def Selector.isReadable : Selector → Bool
  | .index i => isInRange i
  | .slice s => s.isInRange
  | .filter e => e.isReadable
  | _ => true

/-- Whether the text of a segment says a segment. -/
def Segment.isReadable : Segment → Bool
  | .dot _ s => s.isReadable
  | .brackets _ ss => !ss.isEmpty && areReadableSelectors ss

/-- Whether the texts of selectors say selectors. -/
def areReadableSelectors : List Selector → Bool
  | [] => true
  | s :: ss => s.isReadable && areReadableSelectors ss

/-- Whether the texts of segments say segments. -/
def areReadableSegments : List Segment → Bool
  | [] => true
  | s :: ss => s.isReadable && areReadableSegments ss

/-- Whether the text of an expression says an expression. Negations are in front of simple tests,
and only single nodes are compared. -/
def Expr.isReadable : Expr → Bool
  | .binary _ l r => l.isReadable && r.isReadable
  | .not e => e.startsSimple && e.isReadable
  | .paren e => e.isReadable
  | .call _ es => areReadableArguments es
  | .single _ ss => (rereadSegments ss).all Segment.isSingular && areReadableSegments ss
  | .nodes _ ss => areReadableSegments ss
  | _ => true

/-- Whether the texts of arguments say arguments. -/
def areReadableArguments : List Expr → Bool
  | [] => true
  | e :: es => e.standsAlone && e.isReadable && areReadableArguments es

end

/-! ## Grouped queries

In a grouped query every operand is kept together by its text, without parentheses or with them. -/

/-- Whether the expression is a disjunction. -/
def Expr.isDisjunction : Expr → Bool
  | .binary .or _ _ => true
  | _ => false

/-- Whether the expression is a simple test, to which a negation in front of it applies. -/
def Expr.isSimple : Expr → Bool
  | .paren _ => true
  | .call _ _ => true
  | .nodes _ _ => true
  | _ => false

mutual

/-- Whether all expressions in a selector are grouped. -/
def Selector.isGrouped : Selector → Bool
  | .filter e => e.isGrouped
  | _ => true

/-- Whether all expressions in a segment are grouped. -/
def Segment.isGrouped : Segment → Bool
  | .dot _ s => s.isGrouped
  | .brackets _ ss => areGroupedSelectors ss

/-- Whether all expressions in selectors are grouped. -/
def areGroupedSelectors : List Selector → Bool
  | [] => true
  | s :: ss => s.isGrouped && areGroupedSelectors ss

/-- Whether all expressions in segments are grouped. -/
def areGroupedSegments : List Segment → Bool
  | [] => true
  | s :: ss => s.isGrouped && areGroupedSegments ss

/-- Whether in an expression no `&&` has a disjunction as an operand, and every negation applies to
a simple test. -/
def Expr.isGrouped : Expr → Bool
  | .binary .and l r =>
    !l.isDisjunction && !r.isDisjunction && (l.isGrouped && r.isGrouped)
  | .binary .or l r => l.isGrouped && r.isGrouped
  | .binary (.compare _) l r => l.isGrouped && r.isGrouped
  | .not e => e.isSimple && e.isGrouped
  | .paren e => e.isGrouped
  | .call _ es => areGroupedExprs es
  | .single _ ss => areGroupedSegments ss
  | .nodes _ ss => areGroupedSegments ss
  | _ => true

/-- Whether expressions are grouped. -/
def areGroupedExprs : List Expr → Bool
  | [] => true
  | e :: es => e.isGrouped && areGroupedExprs es

end

/-- Whether all expressions in a query are grouped. -/
def isGrouped (q : Query) : Bool := areGroupedSegments q.segments

end JsonPath.Query
