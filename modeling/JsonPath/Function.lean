import JsonPath.Run

/-!
# Functions

A function declares of which kinds its parameters and its result are. What it is called with is made
to fit: a parameter for a value takes the node of a list of one, a parameter for nodes takes a
single node as a list of one, and a parameter for a truth value takes whether the argument counts as
true. Called with another number of arguments, a function has no value.
-/

namespace JsonPath

namespace Function

/-- What is declared of a parameter or a result. -/
inductive Kind where
  /-- one value, or nothing -/
  | value
  /-- a truth value -/
  | logical
  /-- a list of nodes -/
  | nodes
deriving Repr, DecidableEq

/-- An argument as a parameter of a given kind takes it. -/
def Kind.coerce : Kind → Value → Value
  | value, .nodes [n] => .node n
  | value, .nodes _ => .nothing
  | nodes, .node n => .nodes [n]
  | logical, v => .logical v.isTruthy
  | _, v => v

/-- What the body of a function answers. -/
structure Reply where
  result : Except Defect Value
  /-- whether the signal to stop is to be raised -/
  stops : Bool

/-- What a function does. -/
inductive Body where
  /-- an answer to the arguments, and to whether the signal to stop is raised -/
  | answer (f : List Value → Bool → Reply)
  /-- whether the text that is the first argument matches the expression that is the second -/
  | matching (extent : Regex.Extent)

/-- A body that gives a value for any arguments and has nothing to do with the signal. -/
def Body.ofPure (f : List Value → Value) : Body := .answer fun vs _ => ⟨.ok (f vs), false⟩

/-- One of the arguments. -/
def argument (vs : List Value) (index : Nat) : Except Defect Value :=
  match vs[index]? with
  | some v => .ok v
  | none => .error (.missingArgument index)

/-- The text and the expression among the arguments, if both are texts. -/
def subject? (vs : List Value) : Except Defect (Option (String × String)) := do
  let v ← argument vs 0
  let w ← argument vs 1
  return match v.string?, w.string? with
    | some text, some pattern => some (text, pattern)
    | _, _ => none

/-- A result, or the end of the run. -/
def settle {α : Type} : Except Defect α → Eval α
  | .ok a => return a
  | .error d => throw (.defect d)

/-- Runs a body on arguments. -/
def Body.run : Body → List Value → Eval Value
  | answer f, vs => do
    let reply := f vs (← Eval.isRaised)
    if reply.stops then Eval.raise
    settle reply.result
  | matching extent, vs => do
    match ← settle (subject? vs) with
    | some (text, pattern) => return .logical (Regex.accepts (← Eval.compile extent pattern) text)
    | none => return .logical false

end Function

/-- A function that expressions may call. -/
structure Function where
  name : String
  result : Function.Kind
  parameters : List Function.Kind
  body : Function.Body

/-- Calls a function with arguments, each of which is made to fit its parameter. -/
def Function.invoke (f : Function) (vs : List Value) : Eval Value :=
  if vs.length = f.parameters.length then
    f.body.run (List.zipWith Function.Kind.coerce f.parameters vs)
  else return .nothing

end JsonPath
