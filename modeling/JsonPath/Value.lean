import JsonPath.Json
import JsonPath.Number.Nearest
import JsonPath.Json.Text
import JsonPath.Query.Printer
import JsonPath.Text.Quoted

/-!
# The values of expressions

An expression stands for nothing, a truth value, one node of the document, a list of nodes, or a
literal. The forms are kept apart: a node that holds `true` is no truth value, and a list of one
node is not that node. Whoever needs one form asks for it: `logical?`, `node?`, `nodes?` and
`primitive?` find nothing where the form is another one, while for `asLogical`, `asNode`, `asNodes`
and `asPrimitive` that is a mismatch.
-/

namespace JsonPath

/-! ## Literals -/

/-- The value of a literal, or of a scalar of the document. -/
inductive Primitive where
  | integer (n : Int64)
  | float (x : Float)
  | string (s : String)
  | bool (b : Bool)
  | null

namespace Primitive

/-- The value of a number of the document. What is no integer of 64 bits becomes a floating-point
number, the nearest one if need be. -/
def ofNumber : Number → Primitive
  | .integer n => integer n
  | .natural n _ => float (Number.ofNatural false n.toNat)
  | .float x _ => float x

/-- The value of a scalar of the document. Arrays and objects have none. -/
def ofJson? : Json → Option Primitive
  | .null => some null
  | .bool b => some (bool b)
  | .number n => some (ofNumber n)
  | .string s => some (string s)
  | .array _ => none
  | .object _ => none

/-- The text of a literal, as it is shown in messages. -/
def text : Primitive → String
  | integer n => .ofList (Text.integer n.toInt)
  | float x => .ofList (Query.literalLayout.float x)
  | string s => Text.quoted s
  | bool true => "true"
  | bool false => "false"
  | null => "null"

/-- Whether two literals are of one kind and equal. -/
def same : Primitive → Primitive → Bool
  | integer m, integer n => m == n
  | float x, float y => Number.sameFloat x y
  | string s, string t => s == t
  | bool a, bool b => a == b
  | null, null => true
  | _, _ => false

end Primitive

/-! ## Values -/

/-- What an expression stands for. -/
inductive Value where
  /-- no value: a function is not defined there -/
  | nothing
  /-- the result of a test -/
  | logical (b : Bool)
  /-- one node -/
  | node (n : Json)
  /-- any number of nodes, in order -/
  | nodes (ns : List Json)
  /-- a literal -/
  | primitive (p : Primitive)

namespace Value

instance : Inhabited Value := ⟨nothing⟩

/-- Whether there is no value. -/
def isNothing : Value → Bool
  | nothing => true
  | _ => false

/-- Whether the value counts as true in a test. A list of nodes says whether there are any; what a
single node holds does not count. -/
def isTruthy : Value → Bool
  | logical b => b
  | primitive (.bool b) => b
  | nodes ns => !ns.isEmpty
  | _ => false

/-- The text of a value, as it is shown in messages. -/
def text : Value → String
  | nothing => "Nothing"
  | logical b => "Logical(" ++ (Primitive.bool b).text ++ ")"
  | node n => "Node(" ++ n.toText ++ ")"
  | nodes ns => "Nodes[" ++ .ofList (Query.commaSeparated (ns.map Json.compact)) ++ "]"
  | primitive p => "Primitive(" ++ p.text ++ ")"

/-- Whether two values have one form and the same contents. -/
def same : Value → Value → Bool
  | nothing, nothing => true
  | logical a, logical b => a == b
  | node m, node n => m.same n
  | nodes ms, nodes ns => Json.sameItems ms ns
  | primitive p, primitive q => p.same q
  | _, _ => false

/-! ## Asking for a form -/

/-- The truth value, also one that is a literal. -/
def logical? : Value → Option Bool
  | logical b => some b
  | primitive (.bool b) => some b
  | _ => none

/-- The single node. -/
def node? : Value → Option Json
  | node n => some n
  | _ => none

/-- The list of nodes. -/
def nodes? : Value → Option (List Json)
  | nodes ns => some ns
  | _ => none

/-- The literal. -/
def primitive? : Value → Option Primitive
  | primitive p => some p
  | _ => none

/-- The text of a literal, or of a node that holds text. -/
def string? : Value → Option String
  | primitive (.string s) => some s
  | node (.string s) => some s
  | _ => none

/-- The forms that can be asked for. -/
inductive Form where
  | logical
  | node
  | nodes
  | primitive
deriving Repr, DecidableEq

/-- The name of a form. -/
def Form.name : Form → String
  | logical => "a logical value"
  | node => "a node"
  | nodes => "a node list"
  | primitive => "a primitive"

/-- A value that does not have the form it needs to have. -/
structure Mismatch where
  expected : Form
  found : Value

/-- What is said about a mismatch. -/
def Mismatch.message (m : Mismatch) : String :=
  "expected " ++ m.expected.name ++ ", got " ++ m.found.text

/-- The truth value that is needed. -/
def asLogical (v : Value) : Except Mismatch Bool :=
  match v.logical? with
  | some b => .ok b
  | none => .error ⟨.logical, v⟩

/-- The node that is needed. -/
def asNode (v : Value) : Except Mismatch Json :=
  match v.node? with
  | some n => .ok n
  | none => .error ⟨.node, v⟩

/-- The list of nodes that is needed. -/
def asNodes (v : Value) : Except Mismatch (List Json) :=
  match v.nodes? with
  | some ns => .ok ns
  | none => .error ⟨.nodes, v⟩

/-- The literal that is needed. -/
def asPrimitive (v : Value) : Except Mismatch Primitive :=
  match v.primitive? with
  | some p => .ok p
  | none => .error ⟨.primitive, v⟩

end Value

end JsonPath
