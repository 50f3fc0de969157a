import JsonPath.Function.Registry
import JsonPath.Query.Indices
import JsonPath.Value.Comparison

/-!
# Evaluation

A segment takes a list of nodes to a list of nodes: from each node in turn, what its selectors pick,
in the order of the document and with repetitions. Selectors that do not fit a node pick nothing.
An expression about a node has a value. The two depend on each other: filters test expressions, and
expressions embed queries.

In front of each segment, of each node that a segment for descendants visits, and of each candidate
of a filter, the run looks at its signal. Apart from that, only functions can end it early: there is
no shape of a document that does.
-/

namespace JsonPath

/-- What is fixed during a run: the document and the functions. -/
structure Context where
  root : Json
  functions : Registry

namespace Query

/-! ## Lists of nodes -/

/-- What is found from each node in turn. -/
def gather (visit : Json → Eval (List Json)) : List Json → Eval (List Json)
  | [] => return []
  | n :: ns => do
    let here ← visit n
    let others ← gather visit ns
    return here ++ others

/-- The nodes for which a test holds. -/
def keep (test : Json → Eval Bool) : List Json → Eval (List Json)
  | [] => return []
  | n :: ns => do
    let holds ← test n
    let others ← keep test ns
    return if holds then n :: others else others

mutual

/-- What is found from a node and from all its descendants. A node comes before what is inside it.
Each of them is a step of the run. -/
def descend (visit : Json → Eval (List Json)) : Json → Eval (List Json)
  | .array items => do
    Eval.poll
    let here ← visit (.array items)
    let below ← descendItems visit items
    return here ++ below
  | .object members => do
    Eval.poll
    let here ← visit (.object members)
    let below ← descendMembers visit members
    return here ++ below
  | n => do
    Eval.poll
    visit n

/-- What is found from the items of an array and from all their descendants. -/
def descendItems (visit : Json → Eval (List Json)) : List Json → Eval (List Json)
  | [] => return []
  | n :: ns => do
    let here ← descend visit n
    let others ← descendItems visit ns
    return here ++ others

/-- What is found from the members of an object and from all their descendants. -/
def descendMembers (visit : Json → Eval (List Json)) : List (String × Json) → Eval (List Json)
  | [] => return []
  | (_, n) :: ms => do
    let here ← descend visit n
    let others ← descendMembers visit ms
    return here ++ others

end

/-- What is found from a node within the reach of a segment. -/
def Reach.visit (reach : Reach) (visit : Json → Eval (List Json)) (n : Json) : Eval (List Json) :=
  match reach with
  | children => visit n
  | descendants => descend visit n

/-- The node at which an embedded query starts. -/
def Anchor.node (a : Anchor) (ctx : Context) (current : Json) : Json :=
  match a with
  | root => ctx.root
  | .current => current

/-! ## Selectors, segments, expressions -/

mutual

/-- What a selector picks from a node. -/
def Selector.select (ctx : Context) : Selector → Json → Eval (List Json)
  | .name s, .object members => return (Json.member? s members).toList
  | .shorthand s, .object members => return (Json.member? s members).toList
  | .wildcard, n => return n.children
  | .index i, .array items => return ((place? i items.length).bind (items[·]?)).toList
  | .slice s, .array items => return (s.indices items.length).filterMap (items[·]?)
  | .filter e, n =>
    keep (fun child => do
      Eval.poll
      return (← e.evaluate ctx child).isTruthy) n.children
  | _, _ => return []

/-- What several selectors pick from a node, one after the other. -/
def selectAll (ctx : Context) : List Selector → Json → Eval (List Json)
  | [], _ => return []
  | s :: ss, n => do
    let here ← s.select ctx n
    let others ← selectAll ctx ss n
    return here ++ others

/-- What a segment finds from each node in turn. It is a step of the run. -/
def Segment.apply (ctx : Context) : Segment → List Json → Eval (List Json)
  | .dot reach s, ns => do
    Eval.poll
    gather (reach.visit fun n => s.select ctx n) ns
  | .brackets reach ss, ns => do
    Eval.poll
    gather (reach.visit fun n => selectAll ctx ss n) ns

/-- What segments find, each from the nodes that the one before has found. -/
def applyAll (ctx : Context) : List Segment → List Json → Eval (List Json)
  | [], ns => return ns
  | s :: ss, ns => do
    let found ← s.apply ctx ns
    applyAll ctx ss found

/-- The value of an expression about the current node. -/
def Expr.evaluate (ctx : Context) : Expr → Json → Eval Value
  | .integer n, _ => return .primitive (.integer n)
  | .float x, _ => return .primitive (.float x)
  | .string s, _ => return .primitive (.string s)
  | .bool b, _ => return .logical b
  | .null, _ => return .primitive .null
  | .single a ss, current => do
    let found ← applyAll ctx ss [a.node ctx current]
    return match found with
      | [n] => .node n
      | ns => .nodes ns
  | .nodes a ss, current => do
    let found ← applyAll ctx ss [a.node ctx current]
    return .nodes found
  | .not e, current => do
    let v ← e.evaluate ctx current
    return if v.isNothing then v else .logical (!v.isTruthy)
  | .paren e, current => e.evaluate ctx current
  | .binary .and l r, current => do
    let v ← l.evaluate ctx current
    if v.isTruthy then
      let w ← r.evaluate ctx current
      return .logical w.isTruthy
    else return .logical false
  | .binary .or l r, current => do
    let v ← l.evaluate ctx current
    if v.isTruthy then return .logical true
    else
      let w ← r.evaluate ctx current
      return .logical w.isTruthy
  | .binary (.compare c) l r, current => do
    let v ← l.evaluate ctx current
    let w ← r.evaluate ctx current
    return .logical (v.compares c w)
  | .call f es, current => do
    let vs ← evaluateAll ctx es current
    ctx.functions.call f vs

/-- The values of expressions, one after the other. -/
def evaluateAll (ctx : Context) : List Expr → Json → Eval (List Value)
  | [], _ => return []
  | e :: es, current => do
    let v ← e.evaluate ctx current
    let vs ← evaluateAll ctx es current
    return v :: vs

end

/-- One selector between brackets selects as it does by itself. -/
theorem selectAll_singleton (ctx : Context) (s : Selector) : selectAll ctx [s] = s.select ctx := by
  funext n
  simp only [selectAll, pure_bind, List.append_nil, bind_pure]

end Query

end JsonPath
