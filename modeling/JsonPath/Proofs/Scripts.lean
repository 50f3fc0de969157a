import JsonPath.Proofs.Descent

/-!
# Runs as scripts

A script is a computation written down as what it does: it takes steps, and it calls functions, and
how it goes on depends on what they answer. Evaluation can be written down so: `applyAll_eq_play`
and `Expr.evaluate_eq_play` say that to run it is to play its script. In front of each step that is
played, the run looks at its signal; a script itself knows of no signal.
-/

namespace JsonPath

open Query

/-! ## Scripts -/

/-- What a run looks at its signal in front of. -/
inductive Step where
  /-- a segment is applied to nodes -/
  | segment (s : Segment) (ns : List Json)
  /-- a segment for descendants visits a node -/
  | visit (n : Json)
  /-- the expression of a filter is evaluated for a candidate -/
  | candidate (e : Expr) (child : Json)

/-- What a computation does, each time within the expressions that are being evaluated, of which the
innermost comes first. -/
inductive Script (α : Type) where
  /-- it has a result -/
  | done (a : α)
  /-- it takes a step and goes on -/
  | step (around : List Expr) (s : Step) (rest : Script α)
  /-- it calls a function and goes on with the value that it gets -/
  | call (around : List Expr) (function : String) (arguments : List Value) (rest : Value → Script α)

namespace Script

variable {α β : Type}

/-- One script behind another. -/
protected def bind : Script α → (α → Script β) → Script β
  | done a, f => f a
  | step around s rest, f => step around s (rest.bind f)
  | call around g vs rest, f => call around g vs fun v => (rest v).bind f

instance : Monad Script where
  pure := done
  bind := Script.bind

/-- To take a step and do nothing more. -/
def take (around : List Expr) (s : Step) : Script Unit := step around s (done ())

/-- Does what is written down. -/
def play (functions : Registry) : Script α → Eval α
  | done a => return a
  | step _ _ rest => do
    Eval.poll
    rest.play functions
  | call _ f vs rest => do
    let v ← functions.call f vs
    (rest v).play functions

/-! ### Lists of nodes -/

/-- What is found from each node in turn. -/
def gather (visit : Json → Script (List Json)) : List Json → Script (List Json)
  | [] => return []
  | n :: ns => do
    let here ← visit n
    let others ← gather visit ns
    return here ++ others

/-- The nodes for which a test holds. -/
def keep (test : Json → Script Bool) : List Json → Script (List Json)
  | [] => return []
  | n :: ns => do
    let holds ← test n
    let others ← keep test ns
    return if holds then n :: others else others

/-- What is found from a node within the reach of a segment. Descendants are visited one after the
other, in the order of the document. -/
def within (around : List Expr) (reach : Reach) (visit : Json → Script (List Json)) (n : Json) :
    Script (List Json) :=
  match reach with
  | .children => visit n
  | .descendants => gather (fun m => do take around (.visit m); visit m) n.nodes

end Script

/-! ## Evaluation as a script -/

namespace Query

mutual

/-- How a selector picks from a node. -/
def Selector.script (ctx : Context) (around : List Expr) : Selector → Json → Script (List Json)
  | .filter e, n =>
    Script.keep (fun child => do
      Script.take around (.candidate e child)
      return (← e.script ctx (e :: around) child).isTruthy) n.children
  | s, n => return s.picks n
termination_by structural s => s

/-- How several selectors pick from a node, one after the other. -/
def selectAllScript (ctx : Context) (around : List Expr) :
    List Selector → Json → Script (List Json)
  | [], _ => return []
  | s :: ss, n => do
    let here ← s.script ctx around n
    let others ← selectAllScript ctx around ss n
    return here ++ others
termination_by structural ss => ss

/-- How a segment is applied to nodes. -/
def Segment.script (ctx : Context) (around : List Expr) :
    Segment → List Json → Script (List Json)
  | .dot reach s, ns => do
    Script.take around (.segment (.dot reach s) ns)
    Script.gather (Script.within around reach fun n => s.script ctx around n) ns
  | .brackets reach ss, ns => do
    Script.take around (.segment (.brackets reach ss) ns)
    Script.gather (Script.within around reach fun n => selectAllScript ctx around ss n) ns
termination_by structural s => s

/-- How segments are applied, each to the nodes that the one before has found. -/
def applyAllScript (ctx : Context) (around : List Expr) :
    List Segment → List Json → Script (List Json)
  | [], ns => return ns
  | s :: ss, ns => do
    let found ← s.script ctx around ns
    applyAllScript ctx around ss found
termination_by structural ss => ss

/-- How an expression about the current node is evaluated. -/
def Expr.script (ctx : Context) (around : List Expr) : Expr → Json → Script Value
  | .integer n, _ => return .primitive (.integer n)
  | .float x, _ => return .primitive (.float x)
  | .string s, _ => return .primitive (.string s)
  | .bool b, _ => return .logical b
  | .null, _ => return .primitive .null
  | .single a ss, current => do
    let found ← applyAllScript ctx around ss [a.node ctx current]
    return match found with
      | [n] => .node n
      | ns => .nodes ns
  | .nodes a ss, current => do
    let found ← applyAllScript ctx around ss [a.node ctx current]
    return .nodes found
  | .not e, current => do
    let v ← e.script ctx around current
    return if v.isNothing then v else .logical (!v.isTruthy)
  | .paren e, current => e.script ctx around current
  | .binary .and l r, current => do
    let v ← l.script ctx around current
    if v.isTruthy then
      let w ← r.script ctx around current
      return .logical w.isTruthy
    else return .logical false
  | .binary .or l r, current => do
    let v ← l.script ctx around current
    if v.isTruthy then return .logical true
    else
      let w ← r.script ctx around current
      return .logical w.isTruthy
  | .binary (.compare c) l r, current => do
    let v ← l.script ctx around current
    let w ← r.script ctx around current
    return .logical (v.compares c w)
  | .call f es, current => do
    let vs ← evaluateAllScript ctx around es current
    .call around f vs .done
termination_by structural e => e

/-- How expressions are evaluated, one after the other. -/
def evaluateAllScript (ctx : Context) (around : List Expr) :
    List Expr → Json → Script (List Value)
  | [], _ => return []
  | e :: es, current => do
    let v ← e.script ctx around current
    let vs ← evaluateAllScript ctx around es current
    return v :: vs
termination_by structural es => es

end

end Query

/-! ## To play the script is to run the evaluation -/

namespace Script

variable {α β : Type} (functions : Registry)

theorem play_pure (a : α) : (pure a : Script α).play functions = pure a := rfl

/-- To play one script and then another is to play the first and then the second. -/
theorem play_bind (x : Script α) (f : α → Script β) :
    (x >>= f).play functions = x.play functions >>= fun a => (f a).play functions := by
  induction x with
  | done a => rw [play, pure_bind]; rfl
  | step around s rest ih =>
    change (Eval.poll >>= fun _ => (rest >>= f).play functions) = _
    rw [ih, play, bind_assoc]
  | call around g vs rest ih =>
    change (functions.call g vs >>= fun v => (rest v >>= f).play functions) = _
    simp only [ih, play, bind_assoc]

theorem play_take (around : List Expr) (s : Step) : (take around s).play functions = Eval.poll :=
  bind_pure Eval.poll

/-- A script that gathers nodes is played by gathering what its parts select. -/
theorem play_gather (visit : Json → Script (List Json)) (ns : List Json) :
    (gather visit ns).play functions = Query.gather (fun n => (visit n).play functions) ns := by
  induction ns with
  | nil => rfl
  | cons n ns ih => simp only [gather, Query.gather, play_bind, play_pure, ih]

/-- A script that keeps nodes is played by keeping those that pass the test when it is played. -/
theorem play_keep (test : Json → Script Bool) (ns : List Json) :
    (keep test ns).play functions = Query.keep (fun n => (test n).play functions) ns := by
  induction ns with
  | nil => rfl
  | cons n ns ih => simp only [keep, Query.keep, play_bind, play_pure, ih]

/-- A script for the nodes within reach is played by a visit of these nodes. -/
theorem play_within (around : List Expr) (reach : Reach) (visit : Json → Script (List Json))
    (n : Json) : (within around reach visit n).play functions
      = reach.visit (fun m => (visit m).play functions) n := by
  cases reach with
  | children => rfl
  | descendants =>
    rw [within, play_gather, Reach.visit, descend_eq_gather]
    simp only [play_bind, play_take]

end Script

namespace Query

open Script (play_bind play_pure)

variable (ctx : Context)

mutual

/-- To apply a selector is to play its script; the theorems that follow say so of each part of a
query, by one induction on all of them. -/
theorem Selector.select_eq_play (around : List Expr) (s : Selector) (n : Json) :
    s.select ctx n = (s.script ctx around n).play ctx.functions := by
  match s with
  | .filter e =>
    rw [Selector.script, Script.play_keep, Selector.select]
    simp only [Script.play_take, play_bind, play_pure, ← e.evaluate_eq_play (e :: around)]
  | .name _ | .shorthand _ | .wildcard | .index _ | .slice _ =>
    refine Selector.select_eq_picks ?_ ctx n
    intro e h
    cases h

theorem selectAll_eq_play (around : List Expr) (ss : List Selector) (n : Json) :
    selectAll ctx ss n = (selectAllScript ctx around ss n).play ctx.functions := by
  match ss with
  | [] => rfl
  | s :: ss =>
    simp only [selectAll, selectAllScript, play_bind, play_pure, s.select_eq_play around,
      selectAll_eq_play around ss]

/-- To apply a segment is to play its script. -/
theorem Segment.apply_eq_play (around : List Expr) (s : Segment) (ns : List Json) :
    s.apply ctx ns = (s.script ctx around ns).play ctx.functions := by
  match s with
  | .dot reach s =>
    simp only [Segment.apply, Segment.script, Script.play_take, play_bind, Script.play_gather,
      Script.play_within, s.select_eq_play around]
  | .brackets reach ss =>
    simp only [Segment.apply, Segment.script, Script.play_take, play_bind, Script.play_gather,
      Script.play_within, selectAll_eq_play around ss]

/-- To apply a row of segments is to play its script. -/
theorem applyAll_eq_play (around : List Expr) (ss : List Segment) (ns : List Json) :
    applyAll ctx ss ns = (applyAllScript ctx around ss ns).play ctx.functions := by
  match ss with
  | [] => rfl
  | s :: ss =>
    simp only [applyAll, applyAllScript, play_bind, s.apply_eq_play around,
      applyAll_eq_play around ss]

/-- To evaluate an expression is to play its script. -/
theorem Expr.evaluate_eq_play (around : List Expr) (e : Expr) (current : Json) :
    e.evaluate ctx current = (e.script ctx around current).play ctx.functions := by
  match e with
  | .integer _ => rfl
  | .float _ => rfl
  | .string _ => rfl
  | .bool _ => rfl
  | .null => rfl
  | .single a ss =>
    rw [Expr.evaluate, Expr.script, play_bind, ← applyAll_eq_play around ss]
    rfl
  | .nodes a ss =>
    simp only [Expr.evaluate, Expr.script, play_bind, play_pure, applyAll_eq_play around ss]
  | .not e =>
    simp only [Expr.evaluate, Expr.script, play_bind, play_pure, e.evaluate_eq_play around]
  | .paren e => simp only [Expr.evaluate, Expr.script, e.evaluate_eq_play around]
  | .binary .and l r =>
    simp only [Expr.evaluate, Expr.script, play_bind, l.evaluate_eq_play around,
      r.evaluate_eq_play around]
    congr 1
    funext v
    split <;> simp only [play_bind, play_pure]
  | .binary .or l r =>
    simp only [Expr.evaluate, Expr.script, play_bind, l.evaluate_eq_play around,
      r.evaluate_eq_play around]
    congr 1
    funext v
    split <;> simp only [play_bind, play_pure]
  | .binary (.compare c) l r =>
    simp only [Expr.evaluate, Expr.script, play_bind, play_pure, l.evaluate_eq_play around,
      r.evaluate_eq_play around]
  | .call f es =>
    simp only [Expr.evaluate, Expr.script, play_bind, evaluateAll_eq_play around es]
    -- the call is the last thing that is done
    congr 1
    funext vs
    exact (bind_pure _).symm

/-- To evaluate arguments is to play their script. -/
theorem evaluateAll_eq_play (around : List Expr) (es : List Expr) (current : Json) :
    evaluateAll ctx es current = (evaluateAllScript ctx around es current).play ctx.functions := by
  match es with
  | [] => rfl
  | e :: es =>
    simp only [evaluateAll, evaluateAllScript, play_bind, play_pure, e.evaluate_eq_play around,
      evaluateAll_eq_play around es]

end

end Query

end JsonPath
