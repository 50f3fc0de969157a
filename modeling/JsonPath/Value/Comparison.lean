import JsonPath.Value

/-!
# Comparing values

What is compared is the primitive that a value comes down to: a literal itself, a truth value, or
what a single node holds. Arrays and objects come down to `true`. Nothing, or a list that is not of
one node, comes down to no primitive, and then every comparison is false.

Equality is defined between primitives of one kind, where numbers are one kind, and between `null`
and anything. The order is defined between numbers and between texts. Numbers are compared by what
they denote, and texts character by character. Where equality or order is not defined, so are not
the comparisons that need it, and an undefined comparison is false.
-/

namespace JsonPath

namespace Primitive

/-- The order of two numbers. Nothing else has one, and undefined numbers have none either. -/
def order? : Primitive → Primitive → Option Ordering
  | integer m, integer n => some (compare m n)
  | integer m, float y => Number.orderIntFloat m y
  | float x, integer n => (Number.orderIntFloat n x).map Ordering.swap
  | float x, float y => Number.orderFloats x y
  | _, _ => none

/-- Whether two primitives are equal, if that is defined. -/
def equal? : Primitive → Primitive → Option Bool
  | null, q => some (null.same q)
  | p, null => some (p.same null)
  | bool a, bool b => some (a == b)
  | string s, string t => some (s == t)
  | p, q => (p.order? q).map (· == .eq)

/-- Whether the first primitive is less than the second, if that is defined. -/
def less? : Primitive → Primitive → Option Bool
  | string s, string t => some (decide (s < t))
  | p, q => (p.order? q).map (· == .lt)

/-- Less or equal. Both have to be defined. -/
def orEqual : Option Bool → Option Bool → Bool
  | some less, some equal => less || equal
  | _, _ => false

/-- Whether a comparison holds between two primitives. -/
def compares (c : Query.Comparison) (p q : Primitive) : Bool :=
  match c with
  | .equal => p.equal? q == some true
  | .notEqual => p.equal? q == some false
  | .less => p.less? q == some true
  | .lessEqual => orEqual (p.less? q) (p.equal? q)
  | .greater => q.less? p == some true
  | .greaterEqual => orEqual (q.less? p) (p.equal? q)

/-- The primitive that stands for a node in a comparison. -/
def ofNode (n : Json) : Primitive := (ofJson? n).getD (bool true)

end Primitive

namespace Value

/-- The primitive that a value comes down to. -/
def operand? : Value → Option Primitive
  | nothing => none
  | logical b => some (.bool b)
  | node n => some (.ofNode n)
  | nodes [n] => some (.ofNode n)
  | nodes _ => none
  | primitive p => some p

/-- Whether a comparison holds between two values. -/
def compares (c : Query.Comparison) (v w : Value) : Bool :=
  match v.operand?, w.operand? with
  | some p, some q => p.compares c q
  | _, _ => false

end Value

end JsonPath
