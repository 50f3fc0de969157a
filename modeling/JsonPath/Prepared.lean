import JsonPath.Evaluation
import JsonPath.Function.Builtin
import JsonPath.Query.Parser

/-!
# Running queries

A query is prepared once, by fixing the functions that it may call, and then run on any number of
documents. A run that somebody may stop tells whether it was stopped (`executeUnder`). A run under a
signal of its own finds nothing if one of its functions stops it (`execute`).
-/

namespace JsonPath

/-- A query and the functions that it may call. -/
structure Prepared where
  query : Query
  functions : Registry

namespace Prepared

/-- Prepares the query that octets spell. -/
def ofBytes (octets : List UInt8) (functions : Registry) : Except Query.ParseError Prepared := do
  return ⟨← Query.ofBytes octets, functions⟩

/-- Prepares the query that a text spells. -/
def ofText (text : String) (functions : Registry) : Except Query.ParseError Prepared := do
  return ⟨← Query.ofText text, functions⟩

/-- The nodes of a document that the query selects, in order. -/
def run (p : Prepared) (document : Json) : Eval (List Json) :=
  Query.applyAll ⟨document, p.functions⟩ p.query.segments [document]

/-- Runs the query under a signal. The signal comes back as the run leaves it. -/
def executeUnder (p : Prepared) (document : Json) (s : Signal) :
    Except Fault (List Json) × Signal :=
  (p.run document).runFrom s

/-- Runs the query under a signal of its own. If that is raised, nothing is found. -/
def execute (p : Prepared) (document : Json) : Except Defect (List Json) :=
  match (p.executeUnder document .down).1 with
  | .ok found => .ok found
  | .error .cancelled => .ok []
  | .error (.defect d) => .error d

/-- Runs the query and makes an array of what it finds. -/
def executeToArray (p : Prepared) (document : Json) : Except Defect Json :=
  Json.array <$> p.execute document

end Prepared

end JsonPath
