import JsonPath.Number.Binary

/-!
# Documents

A document is a JSON value. The members of an object keep their order; a member that is set again
keeps its place. Two values are the same (`Json.same`) if they have the same shape and the same
scalars, whatever the order of their members. A number remembers the range it was read from, and a
whole number is never the same as one with a fraction.
-/

namespace JsonPath

/-- The numbers of a document: integers of 64 bits, the natural numbers of 64 bits that are no such
integers, and all others as floating-point numbers, which are finite. -/
inductive Number where
  | integer (n : Int64)
  | natural (n : UInt64) (large : Nat.pow 2 63 ≤ n.toNat)
  | float (x : Float) (finite : Number.isFinite x = true)

namespace Number

/-- Whether two numbers come from one range and are equal. -/
def same : Number → Number → Bool
  | integer m, integer n => m == n
  | natural m _, natural n _ => m == n
  | float x _, float y _ => sameFloat x y
  | _, _ => false

end Number

/-- A JSON value. -/
inductive Json where
  | null
  | bool (b : Bool)
  | number (n : Number)
  | string (s : String)
  | array (items : List Json)
  | object (members : List (String × Json))

namespace Json

instance : Inhabited Json := ⟨null⟩

/-! ## Members -/

/-- The value of a member. -/
def member? (name : String) (members : List (String × Json)) : Option Json :=
  (members.find? fun m => m.1 == name).map (·.2)

/-- Sets a member: in its place if there is one of that name, and behind all others if not. -/
def setMember (name : String) (value : Json) : List (String × Json) → List (String × Json)
  | [] => [(name, value)]
  | m :: ms => if m.1 == name then (name, value) :: ms else m :: setMember name value ms

/-- The values right inside an array or an object, in order. A scalar holds none. -/
def children : Json → List Json
  | array items => items
  | object members => members.map (·.2)
  | _ => []

/-! ## Sameness -/

mutual

/-- Whether two values are the same apart from the order of members. -/
def same : Json → Json → Bool
  | null, null => true
  | bool a, bool b => a == b
  | number m, number n => m.same n
  | string s, string t => s == t
  | array xs, array ys => sameItems xs ys
  | object ms, object ns => ms.length == ns.length && sameMembers ms ns
  | _, _ => false

/-- Whether two lists hold the same values. -/
def sameItems : List Json → List Json → Bool
  | [], [] => true
  | x :: xs, y :: ys => x.same y && sameItems xs ys
  | _, _ => false

/-- Whether each member has a counterpart among the others. -/
def sameMembers : List (String × Json) → List (String × Json) → Bool
  | [], _ => true
  | (name, x) :: ms, ns =>
    (match member? name ns with
      | some y => x.same y
      | none => false) && sameMembers ms ns

end

end Json

end JsonPath
