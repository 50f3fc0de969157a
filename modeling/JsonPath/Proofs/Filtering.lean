import Mathlib.Data.List.Nodup
import Mathlib.Data.List.Perm.Basic
import JsonPath.Proofs.Composition
import JsonPath.Proofs.Regex.Anchoring
import JsonPath.Proofs.Regrouping.Meaning

/-!
# Filters as sets of places

A filter tests the children of a node one after the other. What it keeps is told by the places of
these children (`Expr.places`, `select_filter`), so that children that are equal are kept apart, and
on places the connectives are what they are on sets (`filters_areBoolean`). The one exception is the
negation: an expression without a value is not true, but neither is its negation.

Comparisons, tests for nodes and what is made of them always have a value (`IsDefinite`), and so has
a call of a function that matches texts.
-/

namespace JsonPath.Query

open Eval (Gives)

/-! ## Places -/

/-- The numbers of the nodes for which a test holds. -/
def keepPlaces (test : Json → Eval Bool) : List (Json × Nat) → Eval (List Nat)
  | [] => return []
  | (n, k) :: ns => do
    let holds ← test n
    let others ← keepPlaces test ns
    return if holds then k :: others else others

/-- Whether an expression holds for a child. Each child is a step of the run. -/
def Expr.holds (ctx : Context) (e : Expr) (child : Json) : Eval Bool := do
  Eval.poll
  return (← e.evaluate ctx child).isTruthy

/-- The places of the children that the filter with an expression keeps. -/
def Expr.places (ctx : Context) (e : Expr) (n : Json) : Eval (List Nat) :=
  keepPlaces (e.holds ctx) n.children.zipIdx

/-- The children at several places. -/
def childrenAt (n : Json) (ps : List Nat) : List Json := ps.filterMap (n.children[·]?)

section Places

variable {test : Json → Eval Bool}

/-- What is kept is what stands at the places of what is kept. -/
theorem keep_eq {ns : List Json} {l : List (Json × Nat)} (hl : ∀ p ∈ l, ns[p.2]? = some p.1) :
    keep test (l.map Prod.fst) = (·.filterMap (ns[·]?)) <$> keepPlaces test l := by
  induction l with
  | nil => simp [keep, keepPlaces]
  | cons p l ih =>
    obtain ⟨hp, hl⟩ := List.forall_mem_cons.mp hl
    simp only [List.map_cons, keep, keepPlaces, ih hl, map_bind, map_pure, bind_map_left]
    congr 1
    funext holds
    congr 1
    funext others
    cases holds with
    | true => simp [hp]
    | false => rfl

theorem getElem?_of_mem_zipIdx {ns : List Json} : ∀ p ∈ ns.zipIdx, ns[p.2]? = some p.1 := by
  intro p hp
  exact List.mem_zipIdx_iff_getElem?.mp hp

theorem map_snd_zipIdx (ns : List Json) : ns.zipIdx.map Prod.snd = List.range ns.length := by
  rw [List.zipIdx_map_snd, List.range_eq_range']

/-- A filter finds the children at the places that it keeps. -/
theorem select_filter (ctx : Context) (e : Expr) (n : Json) :
    (Selector.filter e).select ctx n = childrenAt n <$> e.places ctx n := by
  have h : keep (e.holds ctx) (n.children.zipIdx.map Prod.fst) =
      childrenAt n <$> e.places ctx n := keep_eq getElem?_of_mem_zipIdx
  rwa [List.zipIdx_map_fst] at h

theorem childrenAt_range (n : Json) : childrenAt n (List.range n.children.length) = n.children := by
  have hsome : ∀ p ∈ n.children.zipIdx, n.children[p.2]? = some p.1 := getElem?_of_mem_zipIdx
  rw [childrenAt, ← map_snd_zipIdx, List.filterMap_map]
  refine (List.filterMap_congr hsome).trans ?_
  rw [List.filterMap_eq_map', List.zipIdx_map_fst]

/-- If a test has an outcome for each node, what is kept are the places where it holds. -/
theorem keepPlaces_gives {f : Nat → Bool} {l : List (Json × Nat)}
    (h : ∀ p ∈ l, (test p.1).Gives (.ok (f p.2))) :
    (keepPlaces test l).Gives (.ok ((l.map Prod.snd).filter f)) := by
  induction l with
  | nil => exact Eval.gives_pure []
  | cons p l ih =>
    obtain ⟨hp, hl⟩ := List.forall_mem_cons.mp h
    rw [List.map_cons, List.filter_cons]
    exact hp.bind ((ih hl).bind (Eval.gives_pure _))

/-- To keep places is settled if the test of each node is. -/
theorem keepPlaces_isSettled {well : Prop} (ht : ∀ n, (test n).IsSettled well)
    (l : List (Json × Nat)) : (keepPlaces test l).IsSettled well := by
  have hkept := Eval.IsSettled.isKept well
  induction l with
  | nil => exact hkept.pure []
  | cons p l ih => exact hkept.bind (ht p.1) fun _ => hkept.map _ ih

/-- And if places are kept, the test has an outcome for each node. -/
theorem exists_of_keepPlaces {well : Prop} (ht : ∀ n, (test n).IsSettled well)
    {l : List (Json × Nat)} (hl : (l.map Prod.snd).Nodup) {ps : List Nat}
    (h : (keepPlaces test l).Gives (.ok ps)) :
    ∃ f : Nat → Bool, ∀ p ∈ l, (test p.1).Gives (.ok (f p.2)) := by
  have hkept := Eval.IsSettled.isKept well
  induction l generalizing ps with
  | nil => exact ⟨fun _ => false, fun p hp => absurd hp List.not_mem_nil⟩
  | cons p l ih =>
    obtain ⟨hp, hl⟩ := List.nodup_cons.mp hl
    rw [keepPlaces, Eval.gives_bind_iff (ht p.1) fun _ => hkept.map _ (keepPlaces_isSettled ht l)]
      at h
    obtain ⟨b, hb, h⟩ := h
    obtain ⟨others, hothers, -⟩ :=
      (Eval.gives_bind_iff (keepPlaces_isSettled ht l) fun _ => hkept.pure _).mp h
    obtain ⟨f, hf⟩ := ih hl hothers
    -- the first number is not among the others, so nothing is changed for them
    refine ⟨Function.update f p.2 b, List.forall_mem_cons.mpr ⟨?_, fun q hq => ?_⟩⟩
    · rwa [Function.update_self]
    · have hne : q.2 ≠ p.2 := fun h => hp (h ▸ List.mem_map_of_mem hq)
      rw [Function.update_of_ne hne]
      exact hf q hq

end Places

/-! ## What an expression decides -/

/-- Unless somebody stops the run, the expression has a value for the child, which counts as true or
as false. -/
def Expr.Decides (ctx : Context) (e : Expr) (child : Json) (b : Bool) : Prop :=
  ∃ v, (e.evaluate ctx child).Gives (.ok v) ∧ v.isTruthy = b

/-- Unless somebody stops the run, these are the places that the filter with an expression keeps. -/
def Expr.Picks (ctx : Context) (e : Expr) (n : Json) (ps : List Nat) : Prop :=
  (e.places ctx n).Gives (.ok ps)

section Outcomes

variable {ctx : Context} {a b e : Expr} {child n : Json} {x y : Bool} {ps qs : List Nat}

/-- What an expression has for a value does not depend on the signal, as long as no function does.
-/
theorem evaluate_isSettled (hf : ctx.functions.IgnoresSignal) (e : Expr) (child : Json) :
    (e.evaluate ctx child).IsSettled ctx.functions.Answers :=
  (Eval.IsSettled.isKept _).evaluate (Registry.call_isSettled hf) e child

theorem holds_isSettled (hf : ctx.functions.IgnoresSignal) (e : Expr) (child : Json) :
    (e.holds ctx child).IsSettled ctx.functions.Answers :=
  have hkept := Eval.IsSettled.isKept ctx.functions.Answers
  hkept.bind hkept.poll fun _ => hkept.map _ (evaluate_isSettled hf e child)

/-- The test of a filter has the outcome that its expression decides on. -/
theorem gives_holds_iff (hf : ctx.functions.IgnoresSignal) :
    (e.holds ctx child).Gives (.ok x) ↔ e.Decides ctx child x := by
  have hkept := Eval.IsSettled.isKept ctx.functions.Answers
  have he := evaluate_isSettled hf e child
  rw [Expr.holds, Eval.gives_bind_iff hkept.poll fun _ => hkept.map _ he]
  -- What the look at the signal gives is the unit, so only the value of the expression is left.
  simp only [Eval.gives_bind_iff he fun _ => hkept.pure _, Eval.gives_pure_iff]
  constructor
  · rintro ⟨_, _, v, hv, hx⟩
    exact ⟨v, hv, hx.symm⟩
  · rintro ⟨v, hv, hx⟩
    exact ⟨(), Eval.gives_poll, v, hv, hx.symm⟩

/-- A filter keeps the places at which its expression holds, and the expression decides at each. -/
theorem picks_iff (hf : ctx.functions.IgnoresSignal) : e.Picks ctx n ps ↔
    ∃ f : Nat → Bool, (∀ k child, n.children[k]? = some child → e.Decides ctx child (f k)) ∧
      ps = (List.range n.children.length).filter f := by
  have hsnd := map_snd_zipIdx n.children
  have hpicks (f : Nat → Bool)
      (h : ∀ k child, n.children[k]? = some child → e.Decides ctx child (f k)) :
      e.Picks ctx n ((List.range n.children.length).filter f) := by
    rw [← hsnd]
    exact keepPlaces_gives fun p hp =>
      (gives_holds_iff hf).mpr (h _ _ (getElem?_of_mem_zipIdx p hp))
  constructor
  · intro h
    obtain ⟨f, hd⟩ := exists_of_keepPlaces (holds_isSettled hf e) (hsnd ▸ List.nodup_range) h
    have hd' : ∀ k child, n.children[k]? = some child → e.Decides ctx child (f k) := fun k c hk =>
      (gives_holds_iff hf).mp (hd (c, k) (List.mem_zipIdx_iff_getElem?.mpr hk))
    exact ⟨f, hd', Except.ok.inj (h.unique (hpicks f hd'))⟩
  · rintro ⟨f, hd, rfl⟩
    exact hpicks f hd

/-- What a filter finds stands at the places that it keeps. -/
theorem gives_filter_iff (hf : ctx.functions.IgnoresSignal) {found : List Json} :
    ((Selector.filter e).select ctx n).Gives (.ok found) ↔
      ∃ ps, e.Picks ctx n ps ∧ found = childrenAt n ps := by
  have hplaces : (e.places ctx n).IsSettled ctx.functions.Answers :=
    keepPlaces_isSettled (holds_isSettled hf e) _
  rw [select_filter, map_eq_pure_bind,
    Eval.gives_bind_iff hplaces fun _ => (Eval.IsSettled.isKept _).pure _]
  simp only [Eval.gives_pure_iff, Expr.Picks]

/-- A filter keeps one set of places only. -/
theorem Expr.Picks.unique (h : e.Picks ctx n ps) (h' : e.Picks ctx n qs) : ps = qs :=
  Except.ok.inj (Gives.unique h h')

namespace Expr.Decides

theorem unique (h : e.Decides ctx child x) (h' : e.Decides ctx child y) : x = y := by
  obtain ⟨v, hv, rfl⟩ := h
  obtain ⟨w, hw, rfl⟩ := h'
  rw [Except.ok.inj (hv.unique hw)]

theorem and (ha : a.Decides ctx child x) (hb : b.Decides ctx child y) :
    (Expr.binary .and a b).Decides ctx child (x && y) := by
  obtain ⟨v, hv, rfl⟩ := ha
  obtain ⟨w, hw, rfl⟩ := hb
  refine ⟨.logical (v.isTruthy && w.isTruthy), hv.bind ?_, rfl⟩
  -- The right part is evaluated only if the left one is true.
  cases v.isTruthy with
  | true => exact hw.bind (Eval.gives_pure _)
  | false => exact Eval.gives_pure _

/-- A disjunction decides as one of its parts does. -/
theorem or (ha : a.Decides ctx child x) (hb : b.Decides ctx child y) :
    (Expr.binary .or a b).Decides ctx child (x || y) := by
  obtain ⟨v, hv, rfl⟩ := ha
  obtain ⟨w, hw, rfl⟩ := hb
  refine ⟨.logical (v.isTruthy || w.isTruthy), hv.bind ?_, rfl⟩
  cases v.isTruthy with
  | true => exact Eval.gives_pure _
  | false => exact hw.bind (Eval.gives_pure _)

end Expr.Decides

/-- Unless somebody stops the run, the expression has no value for the child. -/
def Expr.LacksValue (ctx : Context) (e : Expr) (child : Json) : Prop :=
  (e.evaluate ctx child).Gives (.ok .nothing)

/-- A negation is true where the expression is not, and yet has a value. -/
theorem Expr.Decides.not (ha : a.Decides ctx child x) :
    ∃ y, (Expr.not (.paren a)).Decides ctx child y ∧
      (y = true ↔ x = false ∧ ¬ a.LacksValue ctx child) := by
  obtain ⟨v, hv, rfl⟩ := ha
  have hlacks : a.LacksValue ctx child ↔ v = .nothing := by
    constructor
    · intro h
      exact Except.ok.inj (hv.unique h)
    · rintro rfl
      exact hv
  refine ⟨_, ⟨_, hv.bind (Eval.gives_pure _), rfl⟩, ?_⟩
  rw [hlacks]
  cases v with
  | nothing => simp [Value.isNothing, Value.isTruthy]
  | _ => simp [Value.isNothing, isTruthy_logical]

end Outcomes

/-! ## Expressions that have a value -/

/-- What is made of comparisons, connectives, tests for nodes and calls of the functions that match
texts, by negations and parentheses. -/
inductive Expr.IsDefinite (functions : Registry) : Expr → Prop
  | binary (op : Operator) (l r : Expr) : IsDefinite functions (.binary op l r)
  | nodes (a : Anchor) (ss : List Segment) : IsDefinite functions (.nodes a ss)
  | not {e : Expr} (h : e.IsDefinite functions) : IsDefinite functions (.not e)
  | paren {e : Expr} (h : e.IsDefinite functions) : IsDefinite functions (.paren e)
  /-- the function is the one that is always there -/
  | matching (extent : Regex.Extent) (d e : Expr)
      (h : functions.lookup? extent.functionName =
        Registry.builtin.lookup? extent.functionName) :
      IsDefinite functions (.call extent.functionName [d, e])

section Definite

variable {ctx : Context}

theorem logical_ne_nothing (b : Bool) : Value.logical b ≠ .nothing := by
  intro h
  cases h

theorem returns_logical (b : Bool) :
    (pure (.logical b) : Eval Value).Returns (· ≠ .nothing) :=
  Eval.returns_pure (logical_ne_nothing b)

/-- A call of a function that matches texts has a truth value. -/
theorem call_matching_returns {functions : Registry} {extent : Regex.Extent}
    (h : functions.lookup? extent.functionName = Registry.builtin.lookup? extent.functionName)
    {vs : List Value} (hvs : vs.length = 2) :
    (functions.call extent.functionName vs).Returns (· ≠ .nothing) := by
  rw [Registry.call, h, Registry.lookup?_functionName]
  dsimp only
  rw [Function.invoke]
  split
  · refine (Eval.returns_true _).bind fun subject _ => ?_
    split
    · exact (Eval.returns_true _).bind fun _ _ => returns_logical _
    · exact returns_logical _
  · next hne => exact absurd hvs hne

/-- In no run is such an expression without a value. -/
theorem Expr.IsDefinite.evaluate_returns {e : Expr} (h : e.IsDefinite ctx.functions)
    (child : Json) : (e.evaluate ctx child).Returns (· ≠ .nothing) := by
  induction h with
  | binary op l r =>
    -- A connective and a comparison have a truth value, whatever their parts have.
    cases op with
    | and =>
      refine (Eval.returns_true _).bind fun v _ => ?_
      split
      · exact (Eval.returns_true _).bind fun _ _ => returns_logical _
      · exact returns_logical _
    | or =>
      refine (Eval.returns_true _).bind fun v _ => ?_
      split
      · exact returns_logical _
      · exact (Eval.returns_true _).bind fun _ _ => returns_logical _
    | compare c =>
      exact (Eval.returns_true _).bind fun _ _ =>
        (Eval.returns_true _).bind fun _ _ => returns_logical _
  | nodes a ss =>
    refine (Eval.returns_true _).bind fun found _ => Eval.returns_pure ?_
    intro h
    cases h
  | not h ih =>
    refine ih.bind fun v hv => Eval.returns_pure ?_
    split
    · exact hv
    · exact logical_ne_nothing _
  | paren h ih => exact ih
  | matching extent d e h =>
    exact (evaluateAll_returns [d, e] child).bind fun vs hvs =>
      call_matching_returns h hvs.length_eq.symm

/-- A definite expression does not lack a value for any child. -/
theorem Expr.IsDefinite.not_lacksValue {e : Expr} (h : e.IsDefinite ctx.functions)
    (child : Json) : ¬ e.LacksValue ctx child := by
  intro hlacks
  obtain ⟨n, memo, hrun⟩ := hlacks .down .empty rfl rfl
  exact h.evaluate_returns child _ _ _ hrun rfl

end Definite

/-! ## Filters -/

section Filters

variable {ctx : Context} {a b e : Expr} {n : Json} {ps qs : List Nat}

/-- What is kept of a list by a test is there for each element that satisfies the test. -/
theorem filter_mem_filter {l : List Nat} {f : Nat → Bool} {k : Nat} (hk : k ∈ l) :
    decide (k ∈ l.filter f) = f k := by
  simp [List.mem_filter, hk]

/-- To keep what both tests keep is to test for both. -/
theorem filter_filter_mem (l : List Nat) (f g : Nat → Bool) :
    (l.filter f).filter (· ∈ l.filter g) = l.filter fun k => f k && g k := by
  rw [List.filter_filter]
  refine List.filter_congr fun k hk => ?_
  rw [filter_mem_filter hk, Bool.and_comm]

theorem Expr.Picks.and (hf : ctx.functions.IgnoresSignal) (ha : a.Picks ctx n ps)
    (hb : b.Picks ctx n qs) : (Expr.binary .and a b).Picks ctx n (ps.filter (· ∈ qs)) := by
  obtain ⟨f, hf', rfl⟩ := (picks_iff hf).mp ha
  obtain ⟨g, hg, rfl⟩ := (picks_iff hf).mp hb
  refine (picks_iff hf).mpr ⟨fun k => f k && g k, fun k c hk => (hf' k c hk).and (hg k c hk), ?_⟩
  exact filter_filter_mem _ f g

/-- A disjunction keeps the union, in the order of the children. -/
theorem Expr.Picks.or (hf : ctx.functions.IgnoresSignal) (ha : a.Picks ctx n ps)
    (hb : b.Picks ctx n qs) : (Expr.binary .or a b).Picks ctx n
      ((List.range n.children.length).filter fun k => k ∈ ps ∨ k ∈ qs) := by
  obtain ⟨f, hf', rfl⟩ := (picks_iff hf).mp ha
  obtain ⟨g, hg, rfl⟩ := (picks_iff hf).mp hb
  refine (picks_iff hf).mpr ⟨fun k => f k || g k, fun k c hk => (hf' k c hk).or (hg k c hk), ?_⟩
  refine List.filter_congr fun k hk => ?_
  rw [Bool.decide_or, filter_mem_filter hk, filter_mem_filter hk]

/-- A conjunction may be turned round where both parts decide. -/
theorem picks_and_comm (hf : ctx.functions.IgnoresSignal) (ha : a.Picks ctx n ps)
    (hb : b.Picks ctx n qs) {rs : List Nat} :
    (Expr.binary .and a b).Picks ctx n rs ↔ (Expr.binary .and b a).Picks ctx n rs := by
  have hab := ha.and hf hb
  have hba := hb.and hf ha
  obtain ⟨f, -, rfl⟩ := (picks_iff hf).mp ha
  obtain ⟨g, -, rfl⟩ := (picks_iff hf).mp hb
  have hcomm : (fun k => f k && g k) = fun k => g k && f k := funext fun k => Bool.and_comm _ _
  rw [filter_filter_mem] at hab hba
  rw [hcomm] at hab
  exact ⟨fun h => hab.unique h ▸ hba, fun h => hba.unique h ▸ hab⟩

/-- A negation keeps the places that are not kept and at which there is a value. -/
theorem Expr.Picks.not (hf : ctx.functions.IgnoresSignal) (ha : a.Picks ctx n ps) :
    ∃ qs, (Expr.not (.paren a)).Picks ctx n qs ∧ ∀ k child, n.children[k]? = some child →
      (k ∈ qs ↔ k ∉ ps ∧ ¬ a.LacksValue ctx child) := by
  obtain ⟨f, hd, rfl⟩ := (picks_iff hf).mp ha
  have hnot (k : Nat) : ∃ y, ∀ child, n.children[k]? = some child →
      (Expr.not (.paren a)).Decides ctx child y ∧
        (y = true ↔ f k = false ∧ ¬ a.LacksValue ctx child) := by
    cases hk : n.children[k]? with
    | none =>
      -- there is nothing to decide beyond the last child
      refine ⟨false, fun child h => ?_⟩
      cases h
    | some child =>
      obtain ⟨y, hy⟩ := (hd k child hk).not
      refine ⟨y, fun child' h => ?_⟩
      cases h
      exact hy
  choose g hg using hnot
  refine ⟨_, (picks_iff hf).mpr ⟨g, fun k child hk => (hg k child hk).1, rfl⟩, ?_⟩
  intro k child hk
  have hrange : k < n.children.length := (List.getElem?_eq_some_iff.mp hk).1
  simp [List.mem_filter, hrange, (hg k child hk).2]

/-- A place that is kept has a value. -/
theorem Expr.Picks.not_mem_of_lacksValue (hf : ctx.functions.IgnoresSignal)
    (ha : a.Picks ctx n ps) {k : Nat} {child : Json} (hk : n.children[k]? = some child)
    (h : a.LacksValue ctx child) : k ∉ ps := by
  obtain ⟨f, hf', rfl⟩ := (picks_iff hf).mp ha
  have hfalse : f k = false := (hf' k child hk).unique ⟨_, h, rfl⟩
  simp [List.mem_filter, hfalse]

/-- A filter keeps some of the places, in their order. -/
theorem Expr.Picks.sublist (hf : ctx.functions.IgnoresSignal) (ha : a.Picks ctx n ps) :
    ps.Sublist (List.range n.children.length) := by
  obtain ⟨f, -, rfl⟩ := (picks_iff hf).mp ha
  exact List.filter_sublist

/-- A conjunction is decided only if its left part is. -/
theorem Expr.Decides.of_and (hf : ctx.functions.IgnoresSignal) {child : Json} {z : Bool}
    (h : (Expr.binary .and a b).Decides ctx child z) : ∃ x, a.Decides ctx child x := by
  have hkept := Eval.IsSettled.isKept ctx.functions.Answers
  obtain ⟨u, hu, -⟩ := h
  have hrest (v : Value) : Eval.IsSettled ctx.functions.Answers (do
      if v.isTruthy then
        let w ← b.evaluate ctx child
        return Value.logical w.isTruthy
      else return .logical false) := by
    split
    · exact hkept.map _ (evaluate_isSettled hf b child)
    · exact hkept.pure _
  rw [Expr.evaluate, Eval.gives_bind_iff (evaluate_isSettled hf a child) hrest] at hu
  obtain ⟨v, hv, -⟩ := hu
  exact ⟨_, v, hv, rfl⟩

/-- A conjunction with itself keeps the same. -/
theorem picks_and_self_iff (hf : ctx.functions.IgnoresSignal) :
    (Expr.binary .and a a).Picks ctx n ps ↔ a.Picks ctx n ps := by
  constructor
  · intro h
    obtain ⟨f, hf', rfl⟩ := (picks_iff hf).mp h
    -- the conjunction has an outcome, so its left part has one, and that is the same
    refine (picks_iff hf).mpr ⟨f, fun k child hk => ?_, rfl⟩
    obtain ⟨x, hx⟩ := (hf' k child hk).of_and hf
    have heq : f k = (x && x) := (hf' k child hk).unique (hx.and hx)
    rwa [heq, Bool.and_self]
  · intro h
    have hself := h.and hf h
    rwa [List.filter_eq_self.mpr fun k hk => decide_eq_true hk] at hself

/-- Where there always is a value, each place is kept by a filter or by its negation. -/
theorem Expr.Picks.partition (hf : ctx.functions.IgnoresSignal) (ha : a.Picks ctx n ps)
    (hdef : a.IsDefinite ctx.functions) :
    ∃ qs, (Expr.not (.paren a)).Picks ctx n qs ∧
      (ps ++ qs).Perm (List.range n.children.length) := by
  obtain ⟨f, hd, rfl⟩ := (picks_iff hf).mp ha
  have hnot (k : Nat) (child : Json) (hk : n.children[k]? = some child) :
      (Expr.not (.paren a)).Decides ctx child !f k := by
    obtain ⟨y, hy, hiff⟩ := (hd k child hk).not
    have heq : y = !f k := by
      rw [Bool.eq_iff_iff, hiff, Bool.not_eq_true']
      exact and_iff_left (hdef.not_lacksValue child)
    exact heq ▸ hy
  refine ⟨_, (picks_iff hf).mpr ⟨fun k => !f k, hnot, rfl⟩, ?_⟩
  simpa using List.filter_append_perm f (List.range n.children.length)

/-- Every filter keeps some set of places if the functions answer. -/
theorem exists_picks (hf : ctx.functions.IgnoresSignal) (hw : ctx.functions.Answers) (e : Expr)
    (n : Json) : ∃ ps, e.Picks ctx n ps := by
  obtain ⟨_, hr, hsucceeds⟩ :=
    (keepPlaces_isSettled (holds_isSettled hf e) n.children.zipIdx).exists_gives
  obtain ⟨ps, rfl⟩ := hsucceeds hw
  exact ⟨ps, hr⟩

/-- Expressions that hold alike keep the same places. -/
theorem places_eq_of_holds (h : a.holds ctx = b.holds ctx) : a.places ctx n = b.places ctx n := by
  rw [Expr.places, h, Expr.places]

/-- Conjunctions may be grouped either way. -/
theorem holds_and_assoc (a b c : Expr) : (Expr.binary .and (.binary .and a b) c).holds ctx =
    (Expr.binary .and a (.paren (.binary .and b c))).holds ctx := by
  have hparen : (Expr.binary .and b c).Alike ctx (.paren (.binary .and b c)) := by
    funext child
    rw [Expr.evaluate.eq_def ctx (.paren _)]
  have halike := (Expr.Alike.and_assoc a b c).trans (.binary .and (.refl a) hparen)
  funext child
  rw [Expr.holds, Expr.holds, halike]

/-- A double negation holds where the expression does. -/
theorem holds_not_not (a : Expr) :
    (Expr.not (.paren (.not (.paren a)))).holds ctx = a.holds ctx := by
  funext child
  simp only [Expr.holds, Expr.evaluate, bind_assoc, pure_bind]
  congr 1
  funext _
  congr 1
  funext v
  -- Nothing is the only value that is not turned round, and twice it is false, as it counts.
  cases v with
  | nothing => rfl
  | _ => simp [Value.isNothing, isTruthy_logical]

end Filters

/-- The filters with the expressions `a` and `b` keep sets of the children of a node, and the
connectives of expressions are those of sets, but for children for which there is no value. -/
structure AreBoolean (ctx : Context) (n : Json) (a b : Expr) : Prop where
  /-- what is found stands at the places that are kept -/
  select_filter : ∀ e, (Selector.filter e).select ctx n = childrenAt n <$> e.places ctx n
  /-- the wildcard keeps all places -/
  select_wildcard :
    Selector.wildcard.select ctx n = pure (childrenAt n (List.range n.children.length))
  /-- any filter keeps some of them, in their order -/
  sublist : ∀ ps, a.Picks ctx n ps → ps.Sublist (List.range n.children.length)
  /-- there is a result, unless a function fails -/
  succeeds : ctx.functions.Answers → ∀ e : Expr, ∃ ps, e.Picks ctx n ps
  and : ∀ ps qs, a.Picks ctx n ps → b.Picks ctx n qs →
    (Expr.binary .and a b).Picks ctx n (ps.filter (· ∈ qs))
  or : ∀ ps qs, a.Picks ctx n ps → b.Picks ctx n qs →
    (Expr.binary .or a b).Picks ctx n
      ((List.range n.children.length).filter fun k => k ∈ ps ∨ k ∈ qs)
  and_comm : ∀ ps qs rs, a.Picks ctx n ps → b.Picks ctx n qs →
    ((Expr.binary .and a b).Picks ctx n rs ↔ (Expr.binary .and b a).Picks ctx n rs)
  and_assoc : ∀ c, (Expr.binary .and (.binary .and a b) c).places ctx n =
    (Expr.binary .and a (.paren (.binary .and b c))).places ctx n
  and_self : ∀ ps, (Expr.binary .and a a).Picks ctx n ps ↔ a.Picks ctx n ps
  not_not : (Expr.not (.paren (.not (.paren a)))).places ctx n = a.places ctx n
  /-- a negation keeps what is not kept, but for children for which there is no value -/
  not : ∀ ps, a.Picks ctx n ps → ∃ qs, (Expr.not (.paren a)).Picks ctx n qs ∧
    ∀ k child, n.children[k]? = some child → (k ∈ qs ↔ k ∉ ps ∧ ¬ a.LacksValue ctx child)
  /-- neither filter keeps these -/
  lacking : ∀ ps k child, a.Picks ctx n ps → n.children[k]? = some child →
    a.LacksValue ctx child → k ∉ ps
  /-- in no run is there no value for an expression of these forms -/
  definite : a.IsDefinite ctx.functions → ∀ child, (a.evaluate ctx child).Returns (· ≠ .nothing)
  /-- so each child is kept by the filter or by its negation, and never by both -/
  partition : a.IsDefinite ctx.functions → ∀ ps, a.Picks ctx n ps →
    ∃ qs, (Expr.not (.paren a)).Picks ctx n qs ∧ (ps ++ qs).Perm (List.range n.children.length)

/-- **Boolean laws.** Filters are Boolean wherever no function looks at the signal, but for the
complement: if there is no value of an expression for a child, then neither the expression nor
its negation keeps the child. -/
theorem filters_areBoolean {ctx : Context} (hf : ctx.functions.IgnoresSignal) (n : Json)
    (a b : Expr) : AreBoolean ctx n a b where
  select_filter e := select_filter ctx e n
  select_wildcard := by rw [Selector.select, childrenAt_range]
  sublist _ ha := ha.sublist hf
  succeeds hw e := exists_picks hf hw e n
  and _ _ ha hb := ha.and hf hb
  or _ _ ha hb := ha.or hf hb
  and_comm _ _ _ ha hb := picks_and_comm hf ha hb
  and_assoc c := places_eq_of_holds (holds_and_assoc a b c)
  and_self _ := picks_and_self_iff hf
  not_not := places_eq_of_holds (holds_not_not a)
  not _ ha := ha.not hf
  lacking _ _ _ ha hk h := ha.not_mem_of_lacksValue hf hk h
  definite hd child := hd.evaluate_returns child
  partition hd _ ha := ha.partition hf hd

/-- The first two children are equal, and the last one has no length. -/
theorem filters_areBoolean_builtin :
    let a : Expr := .call "length" [.nodes .current []]
    let b : Expr := .not (.paren (.call "match" [.nodes .current [], .string "a*"]))
    let n : Json := .array [.string "aa", .string "aa", .null]
    Registry.builtin.IgnoresSignal ∧ AreBoolean ⟨n, .builtin⟩ n a b ∧
      a.LacksValue ⟨n, .builtin⟩ .null ∧ b.IsDefinite .builtin := by
  intro a b n
  refine ⟨Registry.builtin_ignoresSignal, filters_areBoolean Registry.builtin_ignoresSignal n a b,
    ?_, .not (.paren (.matching .whole _ _ rfl))⟩
  intro s memo _ _
  exact ⟨0, memo, rfl⟩

end JsonPath.Query
