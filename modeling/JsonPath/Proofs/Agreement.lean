import Mathlib.Data.List.Forall2
import JsonPath.Proofs.Cancellation
import JsonPath.Proofs.Embedding

/-!
# What evaluation asks of its context

Evaluation asks its context for two things only: where an embedded query starts, and what comes of
a call. So a query is evaluated alike in two contexts that agree on these (`applyAll_congr`).

Contexts need to agree on a call only for arguments that it can have. What is known of them is their
form: an embedded query stands for nodes, whatever it finds (`Expr.evaluate_returns`).
-/

namespace JsonPath

/-! ## Results of computations -/

namespace Eval

variable {α β : Type} {P : α → Prop} {Q : β → Prop}

/-- Each result that the computation has in a run is of a kind. -/
def Returns (x : Eval α) (P : α → Prop) : Prop := ∀ r r' a, x.run.run r = (.ok a, r') → P a

/-- What returns at once returns a value that is as said. -/
theorem returns_pure {a : α} (h : P a) : (pure a : Eval α).Returns P := by
  intro r r' b hrun
  cases hrun
  exact h

theorem returns_true (x : Eval α) : x.Returns fun _ => True := fun _ _ _ _ => trivial

theorem Returns.bind {x : Eval α} {f : α → Eval β} (hx : x.Returns P)
    (hf : ∀ a, P a → (f a).Returns Q) : (x >>= f).Returns Q := by
  intro r r' b hrun
  obtain ⟨a, r₁, hr, hrun⟩ | ⟨e, -, he⟩ := run_bind_cases hrun
  · exact hf a (hx r r₁ a hr) r₁ r' b hrun
  · cases he

/-- What is known of the values may be weakened. -/
theorem Returns.imp {P' : α → Prop} {x : Eval α} (hx : x.Returns P) (h : ∀ a, P a → P' a) :
    x.Returns P' :=
  fun r r' a hrun => h a (hx r r' a hrun)

/-- What is done with a result matters only for results that there can be. -/
theorem Returns.bind_congr {x : Eval α} {f g : α → Eval β} (hx : x.Returns P)
    (hfg : ∀ a, P a → f a = g a) : x >>= f = x >>= g := by
  refine ExceptT.ext (StateT.ext fun r => ?_)
  cases hr : x.run.run r with
  | mk result r₁ =>
    cases result with
    | ok a =>
      have heq : (f a).run.run r₁ = (g a).run.run r₁ := by rw [hfg a (hx r r₁ a hr)]
      exact (run_bind_ok hr).trans (heq.trans (run_bind_ok hr).symm)
    | error e => exact (run_bind_error hr).trans (run_bind_error hr).symm

end Eval

/-- The value is a node or a list of nodes. -/
def Value.IsNodal : Value → Prop
  | node _ => True
  | nodes _ => True
  | _ => False

namespace Query

/-! ## Calls -/

/-- A call in an expression. -/
structure Call where
  function : String
  arguments : List Expr

mutual

/-- The calls in a selector. -/
def Selector.calls : Selector → List Call
  | .filter e => e.calls
  | _ => []

/-- The calls in a segment. -/
def Segment.calls : Segment → List Call
  | .dot _ s => s.calls
  | .brackets _ ss => selectorCalls ss

/-- The calls in selectors. -/
def selectorCalls : List Selector → List Call
  | [] => []
  | s :: ss => s.calls ++ selectorCalls ss

/-- The calls in segments. -/
def segmentCalls : List Segment → List Call
  | [] => []
  | s :: ss => s.calls ++ segmentCalls ss

/-- The calls in an expression, which may itself be one. -/
def Expr.calls : Expr → List Call
  | .call f es => ⟨f, es⟩ :: argumentCalls es
  | .binary _ l r => l.calls ++ r.calls
  | .not e => e.calls
  | .paren e => e.calls
  | .single _ ss => segmentCalls ss
  | .nodes _ ss => segmentCalls ss
  | _ => []

/-- The calls in the arguments of a call. -/
def argumentCalls : List Expr → List Call
  | [] => []
  | e :: es => e.calls ++ argumentCalls es

end

/-- The calls in a query. -/
def calls (q : Query) : List Call := segmentCalls q.segments

/-- Whether the expression is an embedded query, which may stand in parentheses. -/
def Expr.isEmbedded : Expr → Bool
  | .single _ _ => true
  | .nodes _ _ => true
  | .paren e => e.isEmbedded
  | _ => false

section Arguments

variable {ctx : Context}

/-- An embedded query stands for nodes. -/
theorem Expr.evaluate_returns (e : Expr) (h : e.isEmbedded = true) (current : Json) :
    (e.evaluate ctx current).Returns Value.IsNodal := by
  match e with
  | .single a ss =>
    refine (Eval.returns_true _).bind fun found _ => Eval.returns_pure ?_
    split
    · trivial
    · trivial
  | .nodes a ss => exact (Eval.returns_true _).bind fun found _ => Eval.returns_pure trivial
  | .paren e => exact e.evaluate_returns h current

/-- The values have the form that values of the expressions have. -/
def Fit (es : List Expr) (vs : List Value) : Prop :=
  List.Forall₂ (fun e v => e.isEmbedded = true → v.IsNodal) es vs

/-- Arguments have values that fit them, one for each. -/
theorem evaluateAll_returns (es : List Expr) (current : Json) :
    (evaluateAll ctx es current).Returns (Fit es) := by
  induction es with
  | nil => exact Eval.returns_pure .nil
  | cons e es ih =>
    have he : (e.evaluate ctx current).Returns fun v => e.isEmbedded = true → v.IsNodal :=
      fun r r' v hrun h => e.evaluate_returns h current r r' v hrun
    exact he.bind fun v hv => ih.bind fun vs hvs => Eval.returns_pure (.cons hv hvs)

end Arguments

/-! ## Contexts that agree -/

section Agreement

variable {ctx ctx' : Context}

/-- In both registries the same comes of the call, whatever its arguments may be. -/
def Call.AgreesIn (c : Call) (functions functions' : Registry) : Prop :=
  ∀ vs, Fit c.arguments vs → functions.call c.function vs = functions'.call c.function vs

/-- The embedded queries start at the same nodes in both contexts, and the same comes of the
calls. -/
structure Agree (ctx ctx' : Context) (ms : List Embedding) (cs : List Call) : Prop where
  start : ∀ m ∈ ms, m.anchor.node ctx = m.anchor.node ctx'
  call : ∀ c ∈ cs, c.AgreesIn ctx.functions ctx'.functions

/-- Two parts of a query agree if the whole does. -/
theorem Agree.of_append {ms ns : List Embedding} {cs ds : List Call}
    (h : Agree ctx ctx' (ms ++ ns) (cs ++ ds)) : Agree ctx ctx' ms cs ∧ Agree ctx ctx' ns ds := by
  obtain ⟨hm, hn⟩ := List.forall_mem_append.mp h.start
  obtain ⟨hc, hd⟩ := List.forall_mem_append.mp h.call
  exact ⟨⟨hm, hc⟩, ⟨hn, hd⟩⟩

/-- The anchor of an embedded query stands for the same node. -/
theorem Agree.of_embedding {m : Embedding} {ms : List Embedding} {cs : List Call}
    (h : Agree ctx ctx' (m :: ms) cs) :
    m.anchor.node ctx = m.anchor.node ctx' ∧ Agree ctx ctx' ms cs := by
  obtain ⟨hm, hms⟩ := List.forall_mem_cons.mp h.start
  exact ⟨hm, ⟨hms, h.call⟩⟩

/-- A call is answered alike. -/
theorem Agree.of_call {ms : List Embedding} {c : Call} {cs : List Call}
    (h : Agree ctx ctx' ms (c :: cs)) :
    c.AgreesIn ctx.functions ctx'.functions ∧ Agree ctx ctx' ms cs := by
  obtain ⟨hc, hcs⟩ := List.forall_mem_cons.mp h.call
  exact ⟨hc, ⟨h.start, hcs⟩⟩

mutual

/-- In contexts that agree on all that it embeds and calls, a selector selects the same; the
theorems that follow say so of each part of a query. -/
theorem Selector.select_congr {s : Selector} (h : Agree ctx ctx' s.embeddings s.calls) :
    s.select ctx = s.select ctx' := by
  funext n
  match s with
  | .name _ => cases n <;> rfl
  | .shorthand _ => cases n <;> rfl
  | .wildcard => rfl
  | .index _ => cases n <;> rfl
  | .slice _ => cases n <;> rfl
  | .filter e => rw [Selector.select, Selector.select, e.evaluate_congr h]

theorem selectAll_congr {ss : List Selector}
    (h : Agree ctx ctx' (selectorEmbeddings ss) (selectorCalls ss)) :
    selectAll ctx ss = selectAll ctx' ss := by
  funext n
  match ss with
  | [] => rfl
  | s :: ss =>
    obtain ⟨hs, hss⟩ := h.of_append
    rw [selectAll, selectAll, s.select_congr hs, selectAll_congr hss]

/-- A segment finds the same in contexts that agree. -/
theorem Segment.apply_congr {s : Segment} (h : Agree ctx ctx' s.embeddings s.calls) :
    s.apply ctx = s.apply ctx' := by
  funext ns
  match s with
  | .dot reach s => rw [Segment.apply, Segment.apply, s.select_congr h]
  | .brackets reach ss => rw [Segment.apply, Segment.apply, selectAll_congr h]

/-- In contexts that agree on what segments ask, they find the same. -/
theorem applyAll_congr {ss : List Segment}
    (h : Agree ctx ctx' (segmentEmbeddings ss) (segmentCalls ss)) :
    applyAll ctx ss = applyAll ctx' ss := by
  funext ns
  match ss with
  | [] => rfl
  | s :: ss =>
    obtain ⟨hs, hss⟩ := h.of_append
    rw [applyAll, applyAll, s.apply_congr hs, applyAll_congr hss]

/-- An expression has the same value in contexts that agree. -/
theorem Expr.evaluate_congr {e : Expr} {isOperand : Bool}
    (h : Agree ctx ctx' (e.embeddings isOperand) e.calls) :
    e.evaluate ctx = e.evaluate ctx' := by
  funext n
  match e with
  | .integer _ => rfl
  | .float _ => rfl
  | .string _ => rfl
  | .bool _ => rfl
  | .null => rfl
  | .single a ss =>
    obtain ⟨ha, hss⟩ := h.of_embedding
    rw [Expr.evaluate, Expr.evaluate, applyAll_congr hss, ha]
  | .nodes a ss =>
    obtain ⟨ha, hss⟩ := h.of_embedding
    rw [Expr.evaluate, Expr.evaluate, applyAll_congr hss, ha]
  | .not e => rw [Expr.evaluate, Expr.evaluate, e.evaluate_congr h]
  | .paren e => rw [Expr.evaluate, Expr.evaluate, e.evaluate_congr h]
  | .binary .and l r =>
    obtain ⟨hl, hr⟩ := h.of_append
    rw [Expr.evaluate, Expr.evaluate, l.evaluate_congr hl, r.evaluate_congr hr]
  | .binary .or l r =>
    obtain ⟨hl, hr⟩ := h.of_append
    rw [Expr.evaluate, Expr.evaluate, l.evaluate_congr hl, r.evaluate_congr hr]
  | .binary (.compare c) l r =>
    obtain ⟨hl, hr⟩ := h.of_append
    rw [Expr.evaluate, Expr.evaluate, l.evaluate_congr hl, r.evaluate_congr hr]
  | .call f es =>
    obtain ⟨hcall, hes⟩ := h.of_call
    rw [Expr.evaluate, Expr.evaluate, evaluateAll_congr hes]
    -- The arguments have the same values, and these are values on which the calls agree.
    exact (evaluateAll_returns es n).bind_congr hcall

/-- Arguments have the same values in contexts that agree. -/
theorem evaluateAll_congr {es : List Expr}
    (h : Agree ctx ctx' (argumentEmbeddings es) (argumentCalls es)) :
    evaluateAll ctx es = evaluateAll ctx' es := by
  funext n
  match es with
  | [] => rfl
  | e :: es =>
    obtain ⟨he, hes⟩ := h.of_append
    rw [evaluateAll, evaluateAll, e.evaluate_congr he, evaluateAll_congr hes]

end

end Agreement

end Query

end JsonPath
