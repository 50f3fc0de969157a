import JsonPath.Proofs.Filtering

/-!
# What the value of an expression depends on

The current node is what the free occurrences of `@` stand for, those that are not bound by a filter
further inside; the root of the document is what all occurrences of `$` stand for, however deep they
are. An expression in which one of them does not occur has the same value whatever it stands for
(`Expr.isScoped`). So a filter without a free `@` keeps all children or none.
-/

namespace JsonPath.Query

mutual

/-- Whether `@` occurs free in an expression. In an embedded query, it is bound by each filter. -/
def Expr.mentionsCurrent : Expr → Bool
  | .binary _ l r => l.mentionsCurrent || r.mentionsCurrent
  | .not e => e.mentionsCurrent
  | .paren e => e.mentionsCurrent
  | .call _ es => mentionCurrent es
  | .single a _ => a == .current
  | .nodes a _ => a == .current
  | _ => false

/-- Whether `@` occurs free in one of several expressions. -/
def mentionCurrent : List Expr → Bool
  | [] => false
  | e :: es => e.mentionsCurrent || mentionCurrent es

end

section Current

variable {ctx : Context}

/-- Away from `@`, an embedded query starts at the same node for all children. -/
theorem Anchor.node_eq {a : Anchor} (h : (a == .current) = false) (child child' : Json) :
    a.node ctx child = a.node ctx child' := by
  cases a with
  | root => rfl
  | current => cases h

mutual

/-- Without a free `@`, the current node makes no difference. -/
theorem Expr.evaluate_const {e : Expr} (h : e.mentionsCurrent = false) (child child' : Json) :
    e.evaluate ctx child = e.evaluate ctx child' := by
  match e with
  | .integer _ => rfl
  | .float _ => rfl
  | .string _ => rfl
  | .bool _ => rfl
  | .null => rfl
  | .single a ss => rw [Expr.evaluate, Expr.evaluate, Anchor.node_eq h child child']
  | .nodes a ss => rw [Expr.evaluate, Expr.evaluate, Anchor.node_eq h child child']
  | .not e => rw [Expr.evaluate, Expr.evaluate, e.evaluate_const h child child']
  | .paren e => rw [Expr.evaluate, Expr.evaluate, e.evaluate_const h child child']
  | .binary op l r =>
    obtain ⟨hl, hr⟩ := Bool.or_eq_false_iff.mp h
    have hl' := l.evaluate_const hl child child'
    have hr' := r.evaluate_const hr child child'
    cases op with
    | and => rw [Expr.evaluate, Expr.evaluate, hl', hr']
    | or => rw [Expr.evaluate, Expr.evaluate, hl', hr']
    | compare c => rw [Expr.evaluate, Expr.evaluate, hl', hr']
  | .call f es => rw [Expr.evaluate, Expr.evaluate, evaluateAll_const h child child']

theorem evaluateAll_const {es : List Expr} (h : mentionCurrent es = false) (child child' : Json) :
    evaluateAll ctx es child = evaluateAll ctx es child' := by
  match es with
  | [] => rfl
  | e :: es =>
    obtain ⟨he, hes⟩ := Bool.or_eq_false_iff.mp h
    rw [evaluateAll, evaluateAll, e.evaluate_const he child child',
      evaluateAll_const hes child child']

end

/-- Without a free `@`, a filter keeps all children or none. -/
theorem Expr.Picks.all_or_none {e : Expr} (h : e.mentionsCurrent = false)
    (hf : ctx.functions.IgnoresSignal) {n : Json} {ps : List Nat} (hp : e.Picks ctx n ps) :
    ps = List.range n.children.length ∨ ps = [] := by
  obtain ⟨f, hd, rfl⟩ := (picks_iff hf).mp hp
  cases hn : n.children with
  | nil => exact .inr rfl
  | cons first rest =>
    have hfirst : e.Decides ctx first (f 0) := hd 0 first (by rw [hn]; rfl)
    -- what is decided for the first child is decided for all
    have hf₀ : ∀ k ∈ List.range (first :: rest).length, f k = f 0 := by
      intro k hk
      obtain ⟨child, hchild⟩ : ∃ child, n.children[k]? = some child := by
        rw [hn]
        exact ⟨_, List.getElem?_eq_getElem (List.mem_range.mp hk)⟩
      refine (hd k child hchild).unique ?_
      rwa [Expr.Decides, Expr.evaluate_const h child first]
    rw [List.filter_congr hf₀]
    cases f 0 with
    | true => exact .inl (List.filter_true _)
    | false => exact .inr (List.filter_false _)

end Current

/-- Where no embedded query starts at the root, the root makes no difference. -/
theorem Expr.evaluate_root {functions : Registry} {d d' : Json} {e : Expr}
    (h : StayInside (e.embeddings false)) :
    e.evaluate ⟨d, functions⟩ = e.evaluate ⟨d', functions⟩ := by
  have hagree : Agree ⟨d, functions⟩ ⟨d', functions⟩ (e.embeddings false) e.calls := by
    refine ⟨fun m hm => ?_, fun c _ vs _ => rfl⟩
    rw [h m hm]
    rfl
  exact Expr.evaluate_congr hagree

/-- The value of an expression depends on the current node only if there is a free `@` in it, and on
the root of the document only if there is a `$` in it, at whatever depth. -/
structure Expr.IsScoped (functions : Registry) (e : Expr) : Prop where
  current : e.mentionsCurrent = false → ∀ document child child',
    e.evaluate ⟨document, functions⟩ child = e.evaluate ⟨document, functions⟩ child'
  /-- without a free `@`, a filter finds all children or none -/
  all_or_none : e.mentionsCurrent = false → functions.IgnoresSignal → ∀ document n found,
    ((Selector.filter e).select ⟨document, functions⟩ n).Gives (.ok found) →
      found = n.children ∨ found = []
  /-- it does find something or nothing, unless a function fails -/
  succeeds : functions.IgnoresSignal → functions.Answers → ∀ document n, ∃ found,
    ((Selector.filter e).select ⟨document, functions⟩ n).Gives (.ok found)
  root : StayInside (e.embeddings false) → ∀ document document' child,
    e.evaluate ⟨document, functions⟩ child = e.evaluate ⟨document', functions⟩ child

/-- **Scoping.** The root and the current node of an expression are bound as they should be: `@`
to the child that the nearest filter around it looks at, and `$` to the whole document. -/
theorem Expr.isScoped (functions : Registry) (e : Expr) : e.IsScoped functions where
  current h _ child child' := e.evaluate_const h child child'
  all_or_none h hf document n found hfound := by
    obtain ⟨ps, hp, rfl⟩ := (gives_filter_iff hf).mp hfound
    rcases hp.all_or_none h hf with rfl | rfl
    · exact .inl (childrenAt_range n)
    · exact .inr rfl
  succeeds hf hw document n := by
    let ctx : Context := ⟨document, functions⟩
    have hf' : ctx.functions.IgnoresSignal := hf
    obtain ⟨ps, hp⟩ := exists_picks hf' hw e n
    exact ⟨_, (gives_filter_iff hf').mpr ⟨ps, hp, rfl⟩⟩
  root h _ _ child := congrFun (Expr.evaluate_root h) child

/-- In `$[?@.a == count($[?@])]` each `@` is bound, and in `@[?@[?length(@) == 1]]` there is no
`$`. -/
theorem Expr.isScoped_nested :
    let within (e : Expr) : List Segment := [.brackets .children [.filter e]]
    let a : Expr := .single .current [.dot .children (.shorthand "a")]
    let count : Expr := .call "count" [.nodes .root (within (.nodes .current []))]
    let bound : Expr := .nodes .root (within (.binary (.compare .equal) a count))
    let length : Expr := .call "length" [.nodes .current []]
    let one : Expr := .binary (.compare .equal) length (.integer 1)
    let inside : Expr := .nodes .current (within (.nodes .current (within one)))
    let d : Json := .array [.object [("a", .null)], .null]
    bound.evaluate ⟨d, .builtin⟩ .null = bound.evaluate ⟨d, .builtin⟩ d ∧
      (∀ found, ((Selector.filter bound).select ⟨d, .builtin⟩ d).Gives (.ok found) →
        found = d.children ∨ found = []) ∧
      inside.evaluate ⟨.null, .builtin⟩ d = inside.evaluate ⟨d, .builtin⟩ d := by
  intro within a count bound length one inside d
  have hinside : StayInside (inside.embeddings false) := by
    simp [StayInside, inside, within, one, length, segmentEmbeddings, Segment.embeddings,
      selectorEmbeddings, Selector.embeddings, Expr.embeddings, argumentEmbeddings]
  exact ⟨(Expr.isScoped .builtin bound).current rfl d .null d,
    (Expr.isScoped .builtin bound).all_or_none rfl Registry.builtin_ignoresSignal d d,
    (Expr.isScoped .builtin inside).root hinside .null d d⟩

end JsonPath.Query
