import JsonPath.Value
import JsonPath.Regex.Cache

/-!
# Runs

A run of a query goes from step to step: it applies a segment, visits a node or tests a candidate.
Before each step it looks at a signal, and if that is raised, the run ends without a result. The
signal is raised by a function that is called in the run, or from outside after any number of steps;
nothing takes it down again.

`Eval` is a computation that is part of a run. What it leaves behind, the signal and the regular
expressions that are remembered, is there whether it ends well or not.
-/

namespace JsonPath

/-! ## The signal to stop -/

/-- What tells a run to stop. -/
structure Signal where
  raised : Bool
  /-- how many steps have been taken -/
  steps : Nat
  /-- after how many steps the signal is raised from outside, if it ever is -/
  limit : Option Nat
deriving Repr, DecidableEq

namespace Signal

/-- A signal that nobody has raised, and that nobody raises from outside. -/
def down : Signal := ⟨false, 0, none⟩

/-- The signal once it is raised. -/
def raise (s : Signal) : Signal := { s with raised := true }

/-- The signal as it is found in front of a step, which is taken unless the signal is raised. -/
def look (s : Signal) : Signal :=
  if s.raised || s.limit.any (· ≤ s.steps) then s.raise else { s with steps := s.steps + 1 }

end Signal

/-! ## What ends a run early -/

/-- What a function may do wrong. -/
inductive Defect where
  /-- it needs another form than a value has -/
  | mismatch (m : Value.Mismatch)
  /-- it needs an argument that is not there -/
  | missingArgument (index : Nat)

/-- What ends a run without a result. -/
inductive Fault where
  | cancelled
  | defect (d : Defect)

/-- What is said about a defect. -/
def Defect.message : Defect → String
  | mismatch m => m.message
  | missingArgument index => "no argument " ++ .ofList (Text.digits 10 index)

/-- What is said when a run ends without a result. -/
def Fault.message : Fault → String
  | cancelled => "Query execution was cancelled"
  | defect d => d.message

/-! ## Computations -/

/-- What a run carries along. -/
structure Run where
  signal : Signal
  memo : Regex.Memo

/-- The start of a run. -/
def Run.start (s : Signal) : Run := ⟨s, .empty⟩

/-- A computation in a run. -/
abbrev Eval := ExceptT Fault (StateM Run)

namespace Eval

/-- Looks at the signal in front of a step, and ends the run if it is raised. -/
def poll : Eval Unit := do
  modify fun r => { r with signal := r.signal.look }
  if (← get).signal.raised then throw .cancelled

/-- Whether the signal is raised. -/
def isRaised : Eval Bool := return (← get).signal.raised

/-- Raises the signal. -/
def raise : Eval Unit := modify fun r => { r with signal := r.signal.raise }

/-- The pattern for an expression, made anew or remembered. -/
def compile (extent : Regex.Extent) (pattern : String) : Eval (Option Regex.Pattern) :=
  modifyGet fun r =>
    let (compiled, memo) := r.memo.compile extent pattern
    (compiled, { r with memo })

/-- A computation by itself: its result, and the signal that it leaves behind. -/
def runFrom {α : Type} (x : Eval α) (s : Signal) : Except Fault α × Signal :=
  let (result, run) := x.run.run (.start s)
  (result, run.signal)

end Eval

end JsonPath
