import JsonPath.Function.Registry

/-!
# The functions that are always there

`length` counts what is in a value, `count` counts nodes, and `value` takes the single node of a
list. `match` and `search` compare a text with a regular expression, as a whole or anywhere in it.
-/

namespace JsonPath.Function

/-- A count as a value. Counts that are no integer of 64 bits have none. -/
def countValue (n : Nat) : Value :=
  if (n : Int) ≤ Int64.maxValue.toInt then .primitive (.integer (.ofNat n)) else .nothing

/-- The number of items of an array, of members of an object, or of characters of a text. -/
def lengthOf : Value → Value
  | .node (.array items) => countValue items.length
  | .node (.object members) => countValue members.length
  | v => match v.string? with
    | some s => countValue s.length
    | none => .nothing

/-- The number of nodes of a list. -/
def countOf : Value → Value
  | .nodes ns => countValue ns.length
  | _ => .nothing

/-- The node of a list of one. -/
def valueOf : Value → Value
  | .nodes [n] => .node n
  | _ => .nothing

/-- A body for the first argument alone. -/
def unary (f : Value → Value) : Body := .ofPure fun vs => (vs.head?.map f).getD .nothing

/-- The functions that are always there. -/
def builtins : List Function :=
  [⟨"length", .value, [.value], unary lengthOf⟩,
    ⟨"count", .value, [.nodes], unary countOf⟩,
    ⟨"value", .value, [.nodes], unary valueOf⟩,
    ⟨"match", .logical, [.value, .value], .matching .whole⟩,
    ⟨"search", .logical, [.value, .value], .matching .part⟩]

end JsonPath.Function

namespace JsonPath

/-- The registry that holds the functions that are always there. -/
def Registry.builtin : Registry := empty.extend Function.builtins

end JsonPath
