import JsonPath.Prepared
import JsonPath.Proofs.Regrouping

/-!
# The meaning of canonical text

A grouped query and the query that its text says go through the same steps on every document, with
any functions. The text may group chains of one connective differently, to the left; but the tests
of a chain are evaluated in order and only as far as needed, however it is grouped.
-/

namespace JsonPath.Query

/-! ## Expressions that evaluate alike -/

theorem isTruthy_logical (b : Bool) : (Value.logical b).isTruthy = b := rfl

/-- Two expressions evaluate alike on every node. -/
def Expr.Alike (ctx : Context) (d e : Expr) : Prop := d.evaluate ctx = e.evaluate ctx

namespace Expr.Alike

variable {ctx : Context} {a b d e l l' r r' : Expr}

theorem refl (e : Expr) : e.Alike ctx e := rfl

theorem trans (h : d.Alike ctx e) (h' : e.Alike ctx a) : d.Alike ctx a := Eq.trans h h'

theorem binary (op : Operator) (hl : l.Alike ctx l') (hr : r.Alike ctx r') :
    (Expr.binary op l r).Alike ctx (.binary op l' r') := by
  funext n
  cases op with
  | or => rw [Expr.evaluate, Expr.evaluate, hl, hr]
  | and => rw [Expr.evaluate, Expr.evaluate, hl, hr]
  | compare c => rw [Expr.evaluate, Expr.evaluate, hl, hr]

theorem not (h : d.Alike ctx e) : (Expr.not d).Alike ctx (.not e) := by
  funext n
  rw [Expr.evaluate, Expr.evaluate, h]

theorem paren (h : d.Alike ctx e) : (Expr.paren d).Alike ctx (.paren e) := by
  funext n
  rw [Expr.evaluate, Expr.evaluate, h]

/-- A conjunction that is grouped to the right is evaluated like one that is grouped to the
left. -/
theorem and_assoc (l a r : Expr) :
    (Expr.binary .and (.binary .and l a) r).Alike ctx (.binary .and l (.binary .and a r)) := by
  funext n
  simp only [Expr.evaluate, bind_assoc]
  congr 1
  funext v
  cases v.isTruthy with
  | true =>
    simp only [if_true, bind_assoc, pure_bind, isTruthy_logical]
    congr 1
    funext w
    cases w.isTruthy <;> simp [isTruthy_logical]
  | false => simp [isTruthy_logical]

/-- Disjunctions may be grouped either way. -/
theorem or_assoc (l a r : Expr) :
    (Expr.binary .or (.binary .or l a) r).Alike ctx (.binary .or l (.binary .or a r)) := by
  funext n
  simp only [Expr.evaluate, bind_assoc]
  congr 1
  funext v
  cases v.isTruthy with
  | true => simp [isTruthy_logical]
  | false =>
    simp only [Bool.false_eq_true, if_false, bind_assoc, pure_bind, isTruthy_logical]
    congr 1
    funext w
    cases w.isTruthy <;> simp [isTruthy_logical]

/-- Whatever stands to the left of a connective. -/
theorem joined (op : Operator) (left : Option Expr) (h : r.Alike ctx r') :
    (joined op left r).Alike ctx (Query.joined op left r') := by
  cases left with
  | none => exact h
  | some l => exact binary op (refl l) h

end Expr.Alike

/-! ## Chains -/

/-- From any front on, an expression leads to a chain that evaluates as if the expression stood
there in parentheses. -/
structure Expr.Regroups (ctx : Context) (e : Expr) : Prop where
  /-- what is no disjunction belongs to the conjunction in front of it -/
  conjunction : e.isDisjunction = false → ∀ s : Front, s.negated = false →
    (e.regroup s).disjuncts = s.disjuncts ∧
      (e.regroup s).conjunction.Alike ctx (joined .and s.conjuncts e)
  /-- what is not part of a conjunction belongs to the disjunction in front of it -/
  whole : ∀ s : Front, s.negated = false → s.conjuncts = none →
    (e.regroup s).whole.Alike ctx (joined .or s.disjuncts e)
  /-- a simple test is what a negation in front of it applies to -/
  simple : e.isSimple = true → ∀ s : Front,
    (e.regroup s.negate).disjuncts = s.disjuncts ∧
      (e.regroup s.negate).conjunction.Alike ctx (joined .and s.conjuncts (.not e))

namespace Expr.Regroups

variable {ctx : Context} {e e' l r : Expr}

/-- What is no disjunction is the only conjunction behind a disjunction. -/
theorem of_conjunction (h : ∀ s : Front, s.negated = false →
    (e.regroup s).disjuncts = s.disjuncts ∧
      (e.regroup s).conjunction.Alike ctx (joined .and s.conjuncts e))
    (hs : e.isSimple = true → ∀ s : Front,
      (e.regroup s.negate).disjuncts = s.disjuncts ∧
        (e.regroup s.negate).conjunction.Alike ctx (joined .and s.conjuncts (.not e))) :
    e.Regroups ctx := by
  refine ⟨fun _ => h, fun s hn hc => ?_, hs⟩
  obtain ⟨hd, ha⟩ := h s hn
  rw [hc] at ha
  rw [Chain.whole, hd]
  exact .joined .or s.disjuncts ha

theorem of_take (h : ∀ s, e.regroup s = s.take e') (ha : e'.Alike ctx e) : e.Regroups ctx := by
  refine of_conjunction (fun s hs => ?_) fun _ s => ?_
  · rw [h, Front.take, Front.signed, hs]
    exact ⟨rfl, .joined .and s.conjuncts ha⟩
  · rw [h, Front.take, Front.signed]
    exact ⟨rfl, .joined .and s.conjuncts ha.not⟩

/-- A negation of a simple expression stays where it is. -/
theorem not (hs : e.isSimple = true) (h : e.Regroups ctx) : (Expr.not e).Regroups ctx :=
  of_conjunction (fun s _ => h.simple hs s) nofun

/-- Two parts that are no disjunctions are joined to the same conjunction. -/
theorem and (hl : l.Regroups ctx) (hr : r.Regroups ctx) (hld : l.isDisjunction = false)
    (hrd : r.isDisjunction = false) : (Expr.binary .and l r).Regroups ctx := by
  refine of_conjunction (fun s hs => ?_) nofun
  obtain ⟨hd, ha⟩ := hl.conjunction hld s hs
  obtain ⟨hd', ha'⟩ := hr.conjunction hrd (l.regroup s).and rfl
  refine ⟨hd'.trans hd, ha'.trans ?_⟩
  have hjoin : (Expr.binary .and (l.regroup s).conjunction r).Alike ctx
      (.binary .and (joined .and s.conjuncts l) r) := .binary .and ha (.refl r)
  refine hjoin.trans ?_
  cases s.conjuncts with
  | none => exact .refl _
  | some a => exact .and_assoc a l r

/-- Two parts are joined to the same disjunction. -/
theorem or (hl : l.Regroups ctx) (hr : r.Regroups ctx) : (Expr.binary .or l r).Regroups ctx := by
  refine ⟨nofun, fun s hs hc => ?_, nofun⟩
  have ha := hr.whole (l.regroup s).or rfl rfl
  have hjoin : (Expr.binary .or (l.regroup s).whole r).Alike ctx
      (.binary .or (joined .or s.disjuncts l) r) := .binary .or (hl.whole s hs hc) (.refl r)
  refine Alike.trans ha (hjoin.trans ?_)
  cases s.disjuncts with
  | none => exact .refl _
  | some a => exact .or_assoc a l r

/-- The expression that the text of an expression says evaluates like it. -/
theorem reread (h : e.Regroups ctx) : e.reread.Alike ctx e := h.whole .start rfl rfl

end Expr.Regroups

/-! ## Queries -/

section Parts

variable {ctx : Context}

/-- A selector alone in brackets picks what it picks without them. -/
theorem Segment.apply_brackets_singleton (reach : Reach) (s : Selector) :
    (Segment.brackets reach [s]).apply ctx = (Segment.dot reach s).apply ctx := by
  funext ns
  rw [Segment.apply, Segment.apply, selectAll_singleton]

mutual

/-- What is reread selects the same if it is grouped; the theorems that follow say so of each part
of a query. -/
theorem Selector.select_reread {s : Selector} (hg : s.isGrouped = true) :
    s.reread.select ctx = s.select ctx := by
  match s with
  | .name n => rfl
  | .shorthand n =>
    funext n
    cases n <;> rfl
  | .wildcard => rfl
  | .index i => rfl
  | .slice s => rfl
  | .filter e =>
    have he : e.reread.Alike ctx e := (e.regroups hg).reread
    funext n
    rw [Selector.reread, Selector.select, Selector.select]
    exact congrArg (keep · n.children) (funext fun child => by rw [← Expr.reread, he])

theorem selectAll_reread {ss : List Selector} (hg : areGroupedSelectors ss = true) :
    selectAll ctx (rereadSelectors ss) = selectAll ctx ss := by
  match ss with
  | [] => rfl
  | s :: ss =>
    rw [areGroupedSelectors, Bool.and_eq_true] at hg
    funext n
    rw [rereadSelectors, selectAll, selectAll, s.select_reread hg.1, selectAll_reread hg.2]

/-- A grouped segment finds the same when it is reread. -/
theorem Segment.apply_reread {s : Segment} (hg : s.isGrouped = true) :
    s.reread.apply ctx = s.apply ctx := by
  match s with
  | .dot reach (.shorthand n) => rfl
  | .dot reach .wildcard => rfl
  | .dot reach (.name n) => exact Segment.apply_brackets_singleton reach (.name n)
  | .dot reach (.index i) => exact Segment.apply_brackets_singleton reach (.index i)
  | .dot reach (.slice s) => exact Segment.apply_brackets_singleton reach (.slice s)
  | .dot reach (.filter e) =>
    have he := Selector.select_reread (s := .filter e) hg
    refine (Segment.apply_brackets_singleton reach (Selector.filter e).reread).trans ?_
    funext ns
    rw [Segment.apply, Segment.apply, he]
  | .brackets reach ss =>
    funext ns
    rw [Segment.reread, Segment.apply, Segment.apply, selectAll_reread hg]

/-- Grouped segments find the same when they are reread. -/
theorem applyAll_reread {ss : List Segment} (hg : areGroupedSegments ss = true) :
    applyAll ctx (rereadSegments ss) = applyAll ctx ss := by
  match ss with
  | [] => rfl
  | s :: ss =>
    rw [areGroupedSegments, Bool.and_eq_true] at hg
    funext ns
    rw [rereadSegments, applyAll, applyAll, s.apply_reread hg.1, applyAll_reread hg.2]

/-- A grouped expression is reread as one that is alike. -/
theorem Expr.regroups {e : Expr} (hg : e.isGrouped = true) : e.Regroups ctx := by
  -- Only connectives and negations are regrouped; everything else is one simple part, with what is
  -- inside of it reread.
  match e with
  | .binary .or l r =>
    rw [Expr.isGrouped, Bool.and_eq_true] at hg
    exact (l.regroups hg.1).or (r.regroups hg.2)
  | .binary .and l r =>
    rw [Expr.isGrouped, Bool.and_eq_true, Bool.and_eq_true, Bool.and_eq_true,
      Bool.not_eq_true', Bool.not_eq_true'] at hg
    exact (l.regroups hg.2.1).and (r.regroups hg.2.2) hg.1.1 hg.1.2
  | .binary (.compare c) l r =>
    rw [Expr.isGrouped, Bool.and_eq_true] at hg
    exact .of_take (fun _ => rfl)
      (.binary _ (l.regroups hg.1).reread (r.regroups hg.2).reread)
  | .not e =>
    rw [Expr.isGrouped, Bool.and_eq_true] at hg
    exact (e.regroups hg.2).not hg.1
  | .paren e => exact .of_take (fun _ => rfl) (e.regroups hg).reread.paren
  | .call f es =>
    refine .of_take (fun _ => rfl) ?_
    funext n
    rw [Expr.evaluate, Expr.evaluate, evaluateAll_reread hg]
  | .single a ss =>
    refine .of_take (fun _ => rfl) ?_
    funext n
    rw [Expr.evaluate, Expr.evaluate, applyAll_reread hg]
  | .nodes a ss =>
    refine .of_take (fun _ => rfl) ?_
    funext n
    rw [Expr.evaluate, Expr.evaluate, applyAll_reread hg]
  | .integer n => exact .of_take (fun _ => rfl) (.refl _)
  | .float x => exact .of_take (fun _ => rfl) (.refl _)
  | .string t => exact .of_take (fun _ => rfl) (.refl _)
  | .bool b => exact .of_take (fun _ => rfl) (.refl _)
  | .null => exact .of_take (fun _ => rfl) (.refl _)

/-- Grouped arguments have the same values when they are reread. -/
theorem evaluateAll_reread {es : List Expr} (hg : areGroupedExprs es = true) :
    evaluateAll ctx (rereadExprs es) = evaluateAll ctx es := by
  match es with
  | [] => rfl
  | e :: es =>
    rw [areGroupedExprs, Bool.and_eq_true] at hg
    have he : e.reread.Alike ctx e := (e.regroups hg.1).reread
    funext n
    rw [rereadExprs, evaluateAll, evaluateAll, ← Expr.reread, he, evaluateAll_reread hg.2]

end

end Parts

/-- A grouped query and the one that its text says go through the same steps. -/
theorem run_reread {q : Query} (hg : q.isGrouped = true) (functions : Registry) (document : Json) :
    Prepared.run ⟨q.reread, functions⟩ document = Prepared.run ⟨q, functions⟩ document := by
  rw [Prepared.run, Prepared.run, reread, applyAll_reread hg]

end JsonPath.Query
