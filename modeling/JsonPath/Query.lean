import JsonPath.Number.Binary

/-!
# Queries

A query is a list of segments. Each segment looks at every node found so far and picks some of its
children, or of all its descendants; what it picks is said by selectors. A selector may hold a
filter: an expression about a child, in which further queries may be embedded, from the root `$`
of the document or from the current child `@`.

An embedded query stands either for its single node, as an operand of a comparison, or for all of
its nodes.
-/

namespace JsonPath

/-! ## The parts of a query -/

namespace Query

/-- Where an embedded query starts. -/
inductive Anchor where
  /-- at the root of the document, `$` -/
  | root
  /-- at the child that is being tested, `@` -/
  | current
deriving Repr, DecidableEq

/-- Which nodes a segment picks from. -/
inductive Reach where
  | children
  /-- the node itself and all its descendants in turn -/
  | descendants
deriving Repr, DecidableEq

/-- The indices from one bound towards another. Every part may be left out. -/
structure Slice where
  start : Option Int64
  stop : Option Int64
  step : Option Int64
deriving Repr, DecidableEq

/-- The six ways to compare two operands. -/
inductive Comparison where
  | equal
  | notEqual
  | less
  | lessEqual
  | greater
  | greaterEqual
deriving Repr, DecidableEq

/-- The operators between two expressions. -/
inductive Operator where
  | and
  | or
  | compare (c : Comparison)
deriving Repr, DecidableEq

mutual

/-- What is picked among the children of a node. -/
inductive Selector where
  /-- the member of a name, in quotes -/
  | name (s : String)
  /-- the member of a name, without quotes -/
  | shorthand (s : String)
  /-- every child -/
  | wildcard
  /-- the item at a place, counted from the end if the index is negative -/
  | index (i : Int64)
  /-- the items at several places -/
  | slice (s : Slice)
  /-- the children for which an expression holds -/
  | filter (e : Expr)

/-- One step of a query. -/
inductive Segment where
  /-- a selector behind a dot -/
  | dot (reach : Reach) (s : Selector)
  /-- selectors in brackets -/
  | brackets (reach : Reach) (ss : List Selector)

/-- An expression about a node. -/
inductive Expr where
  | integer (n : Int64)
  | float (x : Float)
  | string (s : String)
  | bool (b : Bool)
  | null
  | binary (op : Operator) (left right : Expr)
  | not (e : Expr)
  | paren (e : Expr)
  | call (function : String) (arguments : List Expr)
  /-- an embedded query that stands for its single node -/
  | single (anchor : Anchor) (segments : List Segment)
  /-- an embedded query that stands for all its nodes -/
  | nodes (anchor : Anchor) (segments : List Segment)

end

instance : Inhabited Selector := ⟨.wildcard⟩
instance : Inhabited Segment := ⟨.dot .children .wildcard⟩
instance : Inhabited Expr := ⟨.null⟩

/-- The words that are literals where an expression is expected, and no function has as a name. -/
def isKeyword (name : String) : Bool := name == "true" || name == "false" || name == "null"

end Query

/-- A query: its segments, from the root on. -/
structure Query where
  segments : List Query.Segment
deriving Inhabited

namespace Query

/-! ## Singular queries

A query is singular if its form alone shows that it finds at most one node. -/

/-- Whether a segment picks at most one child. -/
def Segment.isSingular : Segment → Bool
  | dot .children (.shorthand _) => true
  | brackets .children [.name _] => true
  | brackets .children [.index _] => true
  | _ => false

/-- Whether a query finds at most one node. -/
def isSingular (q : Query) : Bool := q.segments.all Segment.isSingular

/-! ## Depth

The depth of a query counts its segments; a segment with filters counts for the deepest of the
queries that are embedded in them as well. -/

mutual

/-- The depth of a selector. -/
def Selector.depth : Selector → Nat
  | .filter e => 1 + e.depth
  | _ => 1

/-- The depth of a segment. Without selectors it is one. -/
def Segment.depth : Segment → Nat
  | .dot _ s => s.depth
  | .brackets _ [] => 1
  | .brackets _ (s :: ss) => max s.depth (maxSelectorDepth ss)

/-- The greatest depth of any selector. -/
def maxSelectorDepth : List Selector → Nat
  | [] => 0
  | s :: ss => max s.depth (maxSelectorDepth ss)

/-- The sum of the depths of segments. -/
def segmentsDepth : List Segment → Nat
  | [] => 0
  | s :: ss => s.depth + segmentsDepth ss

/-- The depth of the deepest embedded query. -/
def Expr.depth : Expr → Nat
  | .binary _ l r => max l.depth r.depth
  | .not e => e.depth
  | .paren e => e.depth
  | .call _ es => maxExprDepth es
  | .single _ ss => segmentsDepth ss
  | .nodes _ ss => segmentsDepth ss
  | _ => 0

/-- The greatest depth of any expression. -/
def maxExprDepth : List Expr → Nat
  | [] => 0
  | e :: es => max e.depth (maxExprDepth es)

end

/-- The depth of a query. -/
def depth (q : Query) : Nat := segmentsDepth q.segments

/-! ## Equality

Two queries are equal if they are built alike and their floating-point literals denote the same
numbers. -/

mutual

/-- Equality of selectors. -/
def Selector.same : Selector → Selector → Bool
  | .name s, .name t => s == t
  | .shorthand s, .shorthand t => s == t
  | .wildcard, .wildcard => true
  | .index i, .index j => i == j
  | .slice s, .slice t => s == t
  | .filter d, .filter e => d.same e
  | _, _ => false

/-- Equality of segments. -/
def Segment.same : Segment → Segment → Bool
  | .dot r s, .dot r' t => r == r' && s.same t
  | .brackets r ss, .brackets r' ts => r == r' && sameSelectors ss ts
  | _, _ => false

/-- Equality of lists of selectors. -/
def sameSelectors : List Selector → List Selector → Bool
  | [], [] => true
  | s :: ss, t :: ts => s.same t && sameSelectors ss ts
  | _, _ => false

/-- Equality of lists of segments. -/
def sameSegments : List Segment → List Segment → Bool
  | [], [] => true
  | s :: ss, t :: ts => s.same t && sameSegments ss ts
  | _, _ => false

/-- Equality of expressions. -/
def Expr.same : Expr → Expr → Bool
  | .integer m, .integer n => m == n
  | .float x, .float y => Number.sameFloat x y
  | .string s, .string t => s == t
  | .bool a, .bool b => a == b
  | .null, .null => true
  | .binary o l r, .binary o' l' r' => o == o' && l.same l' && r.same r'
  | .not d, .not e => d.same e
  | .paren d, .paren e => d.same e
  | .call f es, .call g es' => f == g && sameExprs es es'
  | .single a ss, .single b ts => a == b && sameSegments ss ts
  | .nodes a ss, .nodes b ts => a == b && sameSegments ss ts
  | _, _ => false

/-- Equality of lists of expressions. -/
def sameExprs : List Expr → List Expr → Bool
  | [], [] => true
  | d :: ds, e :: es => d.same e && sameExprs ds es
  | _, _ => false

end

/-- Equality of queries. -/
def same (p q : Query) : Bool := sameSegments p.segments q.segments

end Query

end JsonPath
