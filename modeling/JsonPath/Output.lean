import JsonPath.Output.Highlight

/-!
# Writing what was found

The nodes that a query finds are written as one array, followed by the end of a line. When nobody
reads them any more, there is nothing left to do, and that is no error.
-/

namespace JsonPath.Output

/-- In what style nodes are written. -/
inductive Style where
  | plain
  /-- with the pieces set apart from each other, in colours or not -/
  | highlighted (colours : Bool)
deriving Repr, DecidableEq

/-- Writes nodes as an array and ends the line. -/
def writeNodes (style : Style) (pretty : Bool) (nodes : List Json) : Write Unit := do
  match style with
  | .plain => put (if pretty then (Json.array nodes).prettyAt 0 else (Json.array nodes).compact)
  | .highlighted colours => writeValue ⟨pretty, colours⟩ 0 (.array nodes)
  put ['\n']

/-- A failure while nodes were written. -/
structure WriteError where
  style : Style
  cause : Failure
deriving Repr, DecidableEq

/-- What is said about a failure. -/
def WriteError.message (e : WriteError) : String :=
  match e.style with
  | .plain => "write JSON to stdout"
  | .highlighted _ => "write colorized JSON to stdout"

/-- Writes nodes to a sink. The result is the sink afterwards, and an error unless everything was
written or nobody reads it. -/
def write (style : Style) (pretty : Bool) (nodes : List Json) (sink : Sink) :
    Except WriteError Unit × Sink :=
  match (writeNodes style pretty nodes).run.run sink with
  | (.ok (), s) => (.ok (), s)
  | (.error .brokenPipe, s) => (.ok (), s)
  | (.error cause, s) => (.error ⟨style, cause⟩, s)

end JsonPath.Output
