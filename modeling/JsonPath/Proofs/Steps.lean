import JsonPath.Evaluation

/-!
# What all steps of a run keep

A run is put together from looks at the signal and calls of functions, one computation behind the
other. A property of computations that looks have and that is kept by putting computations one
behind the other (`Eval.IsKept`) is therefore one of every evaluation, as soon as all calls have it.
The recursion of evaluation is followed here once, for all such properties.
-/

namespace JsonPath

/-- A property of computations that is kept when one is put behind another. -/
structure Eval.IsKept (P : ∀ {α : Type}, Eval α → Prop) : Prop where
  pure : ∀ {α : Type} (a : α), P (pure a)
  bind : ∀ {α β : Type} {x : Eval α} {f : α → Eval β}, P x → (∀ a, P (f a)) → P (x >>= f)
  poll : P Eval.poll

/-- What a selector picks from a node, if it is not a filter. -/
def Query.Selector.picks : Selector → Json → List Json
  | .name s, .object members => (Json.member? s members).toList
  | .shorthand s, .object members => (Json.member? s members).toList
  | .wildcard, n => n.children
  | .index i, .array items => ((place? i items.length).bind (items[·]?)).toList
  | .slice s, .array items => (s.indices items.length).filterMap (items[·]?)
  | _, _ => []

/-- Only filters take steps, and call functions. -/
theorem Query.Selector.select_eq_picks {s : Selector} (h : ∀ e, s ≠ .filter e) (ctx : Context)
    (n : Json) : s.select ctx n = pure (s.picks n) := by
  cases s with
  | filter e => exact absurd rfl (h e)
  | wildcard => rfl
  | _ => cases n <;> rfl

/-- What a segment finds from one node. -/
def Query.Segment.visit (ctx : Context) : Segment → Json → Eval (List Json)
  | .dot reach s => reach.visit fun n => s.select ctx n
  | .brackets reach ss => reach.visit fun n => selectAll ctx ss n

/-- A segment looks at the signal, and then visits each node. -/
theorem Query.Segment.apply_eq (ctx : Context) (s : Segment) (ns : List Json) :
    s.apply ctx ns = Eval.poll >>= fun _ => gather (s.visit ctx) ns := by
  cases s <;> rfl

namespace Eval.IsKept

open Query

variable {P : ∀ {α : Type}, Eval α → Prop}

/-- To change the value of a step keeps the property. -/
theorem map (hP : IsKept P) {α β : Type} {x : Eval α} (f : α → β) (hx : P x) :
    P (do let a ← x; return f a) :=
  hP.bind hx fun a => hP.pure (f a)

/-! ## Lists of nodes -/

section Lists

variable {visit : Json → Eval (List Json)}

/-- Several nodes are visited with the property if each of them is. -/
theorem gather (hP : IsKept P) (hv : ∀ n, P (visit n)) (ns : List Json) :
    P (Query.gather visit ns) := by
  induction ns with
  | nil => exact hP.pure _
  | cons n ns ih => exact hP.bind (hv n) fun _ => hP.map _ ih

theorem keep (hP : IsKept P) {test : Json → Eval Bool} (ht : ∀ n, P (test n)) (ns : List Json) :
    P (Query.keep test ns) := by
  induction ns with
  | nil => exact hP.pure _
  | cons n ns ih => exact hP.bind (ht n) fun _ => hP.map _ ih

mutual

/-- A visit of everything below a node keeps the property if the visit of each node does. -/
theorem descend (hP : IsKept P) (hv : ∀ n, P (visit n)) (n : Json) :
    P (Query.descend visit n) := by
  match n with
  | .array items =>
    exact hP.bind hP.poll fun _ => hP.bind (hv _) fun _ => hP.map _ (hP.descendItems hv items)
  | .object members =>
    exact hP.bind hP.poll fun _ => hP.bind (hv _) fun _ => hP.map _ (hP.descendMembers hv members)
  | .null => exact hP.bind hP.poll fun _ => hv _
  | .bool _ => exact hP.bind hP.poll fun _ => hv _
  | .number _ => exact hP.bind hP.poll fun _ => hv _
  | .string _ => exact hP.bind hP.poll fun _ => hv _

theorem descendItems (hP : IsKept P) (hv : ∀ n, P (visit n)) (ns : List Json) :
    P (Query.descendItems visit ns) := by
  match ns with
  | [] => exact hP.pure _
  | n :: ns => exact hP.bind (hP.descend hv n) fun _ => hP.map _ (hP.descendItems hv ns)

theorem descendMembers (hP : IsKept P) (hv : ∀ n, P (visit n)) (ms : List (String × Json)) :
    P (Query.descendMembers visit ms) := by
  match ms with
  | [] => exact hP.pure _
  | (_, n) :: ms => exact hP.bind (hP.descend hv n) fun _ => hP.map _ (hP.descendMembers hv ms)

end

/-- What is within reach is visited with the property if each node of it is. -/
theorem within (hP : IsKept P) (reach : Reach) (hv : ∀ n, P (visit n)) (n : Json) :
    P (reach.visit visit n) := by
  cases reach with
  | children => exact hv n
  | descendants => exact hP.descend hv n

end Lists

/-! ## Selectors, segments, expressions -/

section Parts

variable {ctx : Context}

mutual

/-- A selector keeps a property that all calls have; only a filter takes steps of its own. -/
theorem select (hP : IsKept P) (hf : ∀ name vs, P (ctx.functions.call name vs)) (s : Selector)
    (n : Json) : P (s.select ctx n) := by
  match s with
  | .name _ => cases n <;> exact hP.pure _
  | .shorthand _ => cases n <;> exact hP.pure _
  | .wildcard => exact hP.pure _
  | .index _ => cases n <;> exact hP.pure _
  | .slice _ => cases n <;> exact hP.pure _
  | .filter e =>
    exact hP.keep (fun child => hP.bind hP.poll fun _ => hP.map _ (hP.evaluate hf e child)) _

/-- Selectors between brackets are tried at a node one after the other. -/
theorem selectAll (hP : IsKept P) (hf : ∀ name vs, P (ctx.functions.call name vs))
    (ss : List Selector) (n : Json) : P (Query.selectAll ctx ss n) := by
  match ss with
  | [] => exact hP.pure _
  | s :: ss => exact hP.bind (hP.select hf s n) fun _ => hP.map _ (hP.selectAll hf ss n)

theorem visit (hP : IsKept P) (hf : ∀ name vs, P (ctx.functions.call name vs)) (s : Segment)
    (n : Json) : P (s.visit ctx n) := by
  match s with
  | .dot reach s => exact hP.within reach (fun n => hP.select hf s n) n
  | .brackets reach ss => exact hP.within reach (fun n => hP.selectAll hf ss n) n

theorem apply (hP : IsKept P) (hf : ∀ name vs, P (ctx.functions.call name vs)) (s : Segment)
    (ns : List Json) : P (s.apply ctx ns) := by
  rw [s.apply_eq]
  exact hP.bind hP.poll fun _ => hP.gather (fun n => hP.visit hf s n) ns

/-- Segments are applied one behind the other, each to what the one in front has found. -/
theorem applyAll (hP : IsKept P) (hf : ∀ name vs, P (ctx.functions.call name vs))
    (ss : List Segment) (ns : List Json) : P (Query.applyAll ctx ss ns) := by
  match ss with
  | [] => exact hP.pure _
  | s :: ss => exact hP.bind (hP.apply hf s ns) fun found => hP.applyAll hf ss found

/-- An expression keeps a property that all calls have, and with it every step of a query. -/
theorem evaluate (hP : IsKept P) (hf : ∀ name vs, P (ctx.functions.call name vs)) (e : Expr)
    (current : Json) : P (e.evaluate ctx current) := by
  match e with
  | .integer _ => exact hP.pure _
  | .float _ => exact hP.pure _
  | .string _ => exact hP.pure _
  | .bool _ => exact hP.pure _
  | .null => exact hP.pure _
  | .single a ss => exact hP.map _ (hP.applyAll hf ss _)
  | .nodes a ss => exact hP.map _ (hP.applyAll hf ss _)
  | .not e => exact hP.map _ (hP.evaluate hf e current)
  | .paren e => exact hP.evaluate hf e current
  | .binary .and l r =>
    refine hP.bind (hP.evaluate hf l current) fun v => ?_
    split
    · exact hP.map _ (hP.evaluate hf r current)
    · exact hP.pure _
  | .binary .or l r =>
    refine hP.bind (hP.evaluate hf l current) fun v => ?_
    split
    · exact hP.pure _
    · exact hP.map _ (hP.evaluate hf r current)
  | .binary (.compare c) l r =>
    exact hP.bind (hP.evaluate hf l current) fun _ => hP.map _ (hP.evaluate hf r current)
  | .call f es => exact hP.bind (hP.evaluateAll hf es current) fun vs => hf f vs

theorem evaluateAll (hP : IsKept P) (hf : ∀ name vs, P (ctx.functions.call name vs))
    (es : List Expr) (current : Json) : P (Query.evaluateAll ctx es current) := by
  match es with
  | [] => exact hP.pure _
  | e :: es =>
    exact hP.bind (hP.evaluate hf e current) fun _ => hP.map _ (hP.evaluateAll hf es current)

end

end Parts

end Eval.IsKept

end JsonPath
