import JsonPath.Query

/-!
# Building queries

A query is built by adding one segment after the other. A name is written without quotes where that
is possible. Which names these are is decided here by classes of characters, and not by asking how a
text is cut into tokens.
-/

namespace JsonPath.Query

/-- The characters that a name without quotes starts with: the letters of ASCII, the underscore, and
all that is not in ASCII. -/
def startsShorthand (c : Char) : Bool := c.isAlpha || c == '_' || !decide (c.toNat < 128)

/-- Whether a name can stand behind a dot without quotes. The words for literals cannot. -/
def isShorthand (name : String) : Bool :=
  match name.toList with
  | [] => false
  | c :: cs => startsShorthand c && cs.all (fun c => startsShorthand c || c.isDigit)
      && !isKeyword name

/-- The query with one more segment. -/
def add (q : Query) (s : Segment) : Query := ⟨q.segments ++ [s]⟩

/-- The query without segments. -/
def empty : Query := ⟨[]⟩

/-- The segment that picks the members of a name. -/
def named (reach : Reach) (name : String) : Segment :=
  if isShorthand name then .dot reach (.shorthand name) else .brackets reach [.name name]

/-- The member of a name. -/
def name (q : Query) (name : String) : Query := q.add (named .children name)

/-- All members of a name at any depth. -/
def descendant (q : Query) (name : String) : Query := q.add (named .descendants name)

/-- The item at a place. -/
def index (q : Query) (i : Int64) : Query := q.add (.brackets .children [.index i])

/-- The items at several places. -/
def slice (q : Query) (start stop step : Option Int64) : Query :=
  q.add (.brackets .children [.slice ⟨start, stop, step⟩])

/-- What several selectors pick. -/
def selection (q : Query) (ss : List Selector) : Query := q.add (.brackets .children ss)

/-- The children for which an expression holds. -/
def filter (q : Query) (e : Expr) : Query := q.add (.brackets .children [.filter e])

/-- All children. -/
def wildcard (q : Query) : Query := q.add (.dot .children .wildcard)

/-- All descendants. -/
def descendantWildcard (q : Query) : Query := q.add (.dot .descendants .wildcard)

end JsonPath.Query
