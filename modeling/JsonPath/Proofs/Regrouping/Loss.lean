import JsonPath.Query.Builder
import JsonPath.Proofs.Regrouping.Meaning
import JsonPath.Proofs.Regrouping.Outline
import JsonPath.Proofs.Regrouping.Reading

/-!
# What the text of an ungrouped test loses

If the outline of a filter is not grouped, then its meaning is not safe in its text: with some tests
in the places of its tests the text says what finds something else (`Outline.isLossy_iff`). Calls of
two constant functions are tests enough.
-/

namespace JsonPath.Query

/-- The outline of an expression. Whatever joins no tests is a test. -/
def Expr.outline : Expr → Outline Unit
  | .binary .or l r => .or l.outline r.outline
  | .binary .and l r => .and l.outline r.outline
  | .not e => .not e.outline
  | .paren e => .paren e.outline
  | _ => .test ()

/-! ## Tests with truth values -/

/-- Functions that are called `t` and `f`, and always hold or never. -/
def constants : Registry :=
  (Registry.empty.register ⟨"t", .logical, [], .ofPure fun _ => .logical true⟩).register
    ⟨"f", .logical, [], .ofPure fun _ => .logical false⟩

namespace Outline

/-- The test with an outline, and with calls for the truth values. -/
def expr : Outline Bool → Expr
  | test true => .call "t" []
  | test false => .call "f" []
  | paren o => .paren o.expr
  | not o => .not o.expr
  | and l r => .binary .and l.expr r.expr
  | or l r => .binary .or l.expr r.expr

/-- A test with truth values is built from calls and connectives. -/
theorem isBuilt_expr (x : Outline Bool) : x.expr.isBuilt .test = true := by
  induction x with
  | test b => cases b <;> decide
  | paren o ih => exact ih
  | not o ih => exact ih
  | and l r ihl ihr => exact Bool.and_eq_true _ _ ▸ ⟨ihl, ihr⟩
  | or l r ihl ihr => exact Bool.and_eq_true _ _ ▸ ⟨ihl, ihr⟩

/-- It can be spelled, since its calls can. -/
theorem isSpellable_expr (x : Outline Bool) : x.expr.isSpellable = true := by
  induction x with
  | test b => cases b <;> decide
  | paren o ih => exact ih
  | not o ih => exact ih
  | and l r ihl ihr => rw [expr, Expr.isSpellable, ihl, ihr, Bool.and_self]
  | or l r ihl ihr => rw [expr, Expr.isSpellable, ihl, ihr, Bool.and_self]

/-- Whether a test starts simply shows in its outline. -/
theorem startsSimple_expr (x : Outline Bool) : x.expr.startsSimple = x.bare.startsSimple := by
  induction x with
  | test b => cases b <;> rfl
  | paren o ih => rfl
  | not o ih => rfl
  | and l r ihl ihr => exact ihl
  | or l r ihl ihr => exact ihl

/-- Whether a test can be read shows in its outline. -/
theorem isReadable_expr (x : Outline Bool) : x.expr.isReadable = x.bare.isReadable := by
  induction x with
  | test b => cases b <;> rfl
  | paren o ih => exact ih
  | not o ih => rw [expr, Expr.isReadable, bare, isReadable, ih, startsSimple_expr]
  | and l r ihl ihr => rw [expr, Expr.isReadable, bare, isReadable, ihl, ihr]
  | or l r ihl ihr => rw [expr, Expr.isReadable, bare, isReadable, ihl, ihr]

theorem isDisjunction_expr (x : Outline Bool) : x.expr.isDisjunction = x.bare.isDisjunction := by
  cases x with
  | test b => cases b <;> rfl
  | _ => rfl

theorem isSimple_expr (x : Outline Bool) : x.expr.isSimple = x.bare.isSimple := by
  cases x with
  | test b => cases b <;> rfl
  | _ => rfl

/-- Whether a test is grouped shows in its outline. -/
theorem isGrouped_expr (x : Outline Bool) : x.expr.isGrouped = x.bare.isGrouped := by
  induction x with
  | test b => cases b <;> rfl
  | paren o ih => exact ih
  | not o ih => rw [expr, Expr.isGrouped, bare, isGrouped, isSimple_expr, ih]
  | and l r ihl ihr =>
    rw [expr, Expr.isGrouped, bare, isGrouped, isDisjunction_expr, isDisjunction_expr, ihl, ihr]
  | or l r ihl ihr => rw [expr, Expr.isGrouped, bare, isGrouped, ihl, ihr]

end Outline

/-- The outline of what starts simply starts so. -/
theorem Expr.startsSimple_outline {e : Expr} (h : e.startsSimple = true) :
    e.outline.startsSimple = true := by
  match e with
  | .binary .or l r => exact l.startsSimple_outline h
  | .binary .and l r => exact l.startsSimple_outline h
  | .paren e => rfl
  | .call f es => rfl
  | .nodes a ss => rfl

/-- The outline of what can be read can be read. -/
theorem Expr.isReadable_outline {e : Expr} (h : e.isReadable = true) :
    e.outline.isReadable = true := by
  match e with
  | .binary .or l r =>
    rw [Expr.isReadable, Bool.and_eq_true] at h
    rw [outline, Outline.isReadable, l.isReadable_outline h.1, r.isReadable_outline h.2]
    rfl
  | .binary .and l r =>
    rw [Expr.isReadable, Bool.and_eq_true] at h
    rw [outline, Outline.isReadable, l.isReadable_outline h.1, r.isReadable_outline h.2]
    rfl
  | .not e =>
    rw [Expr.isReadable, Bool.and_eq_true] at h
    rw [outline, Outline.isReadable, startsSimple_outline h.1, e.isReadable_outline h.2]
    rfl
  | .paren e => exact e.isReadable_outline h
  | .binary (.compare c) l r => rfl
  | .call f es => rfl
  | .single a ss => rfl
  | .nodes a ss => rfl
  | .integer n => rfl
  | .float x => rfl
  | .string t => rfl
  | .bool b => rfl
  | .null => rfl

/-! ## Values -/

section Values

variable {ctx : Context} {a b d : Bool} {e l r : Expr}

/-- The expression has a truth value, the same about every node. -/
def Expr.Settles (ctx : Context) (e : Expr) (b : Bool) : Prop :=
  ∀ n, e.evaluate ctx n = pure (.logical b)

namespace Expr.Settles

theorem paren (h : e.Settles ctx b) : (Expr.paren e).Settles ctx b := h

theorem not (h : e.Settles ctx b) : (Expr.not e).Settles ctx (!b) := by
  intro n
  rw [Expr.evaluate, h n, pure_bind]
  rfl

/-- A conjunction has the conjunction of both truth values. -/
theorem and (hl : l.Settles ctx a) (hr : r.Settles ctx b) :
    (Expr.binary .and l r).Settles ctx (a && b) := by
  intro n
  rw [Expr.evaluate, hl n, pure_bind, isTruthy_logical]
  cases a with
  | true => rw [if_pos rfl, hr n, pure_bind, isTruthy_logical, Bool.true_and]
  | false => rfl

/-- A disjunction has the disjunction of both truth values. -/
theorem or (hl : l.Settles ctx a) (hr : r.Settles ctx b) :
    (Expr.binary .or l r).Settles ctx (a || b) := by
  intro n
  rw [Expr.evaluate, hl n, pure_bind, isTruthy_logical]
  cases a with
  | true => rfl
  | false =>
    rw [if_neg Bool.false_ne_true, hr n, pure_bind, isTruthy_logical, Bool.false_or]

end Expr.Settles

/-- The operands on the left have a truth value. If there are none, then it is `unit`. -/
def LeftSettles (ctx : Context) (unit : Bool) (left : Option Expr) (b : Bool) : Prop :=
  match left with
  | none => b = unit
  | some e => e.Settles ctx b

/-- What is joined to a disjunction, if there is one, is a further disjunct. -/
theorem LeftSettles.joined_or {left : Option Expr} (h : LeftSettles ctx false left a)
    (hr : r.Settles ctx b) : (joined .or left r).Settles ctx (a || b) := by
  cases left with
  | none =>
    obtain rfl : a = false := h
    rwa [Bool.false_or]
  | some l => exact .or h hr

/-- What is joined to a conjunction, if there is one, is a further conjunct. -/
theorem LeftSettles.joined_and {left : Option Expr} (h : LeftSettles ctx true left a)
    (hr : r.Settles ctx b) : (joined .and left r).Settles ctx (a && b) := by
  cases left with
  | none =>
    obtain rfl : a = true := h
    rwa [Bool.true_and]
  | some l => exact .and h hr

/-- What a front holds has truth values. -/
structure Front.Settles (ctx : Context) (s : Front) (negated : Bool) (p : Bool × Bool) : Prop where
  disjuncts : LeftSettles ctx false s.disjuncts p.1
  conjuncts : LeftSettles ctx true s.conjuncts p.2
  negated_eq : s.negated = negated

/-- What a chain holds has truth values. -/
structure Chain.Settles (ctx : Context) (k : Chain) (p : Bool × Bool) : Prop where
  disjuncts : LeftSettles ctx false k.disjuncts p.1
  conjunction : k.conjunction.Settles ctx p.2

/-- A chain as a whole has the value of its disjuncts and its conjunction. -/
theorem Chain.Settles.whole {k : Chain} {p : Bool × Bool} (h : k.Settles ctx p) :
    k.whole.Settles ctx (Outline.whole p) := h.disjuncts.joined_or h.conjunction

theorem Front.settles_start (ctx : Context) : Front.start.Settles ctx false (false, true) :=
  ⟨rfl, rfl, rfl⟩

/-- The next part is taken into the conjunction, negated if a sign stands in front of it. -/
theorem Front.Settles.take {s : Front} {negated : Bool} {p : Bool × Bool}
    (h : s.Settles ctx negated p) (he : e.Settles ctx b) :
    (s.take e).Settles ctx (p.1, p.2 && (b ^^ negated)) := by
  refine ⟨h.disjuncts, h.conjuncts.joined_and ?_⟩
  rw [Front.signed, h.negated_eq]
  cases negated with
  | true => exact Bool.xor_true b ▸ he.not
  | false => exact (Bool.xor_false b).symm ▸ he

namespace Outline

/-- A test has the value of its outline. -/
theorem settles_expr (hctx : ctx.functions = constants) (x : Outline Bool) :
    x.expr.Settles ctx x.verdict := by
  induction x with
  | test b =>
    intro n
    cases b with
    | true => rw [expr, Expr.evaluate, hctx]; rfl
    | false => rw [expr, Expr.evaluate, hctx]; rfl
  | paren o ih => exact ih.paren
  | not o ih => exact ih.not
  | and l r ihl ihr => exact ihl.and ihr
  | or l r ihl ihr => exact ihl.or ihr

/-- What is read along the text of a test has the values that the outline walks through. -/
theorem settles_regroup (hctx : ctx.functions = constants) (x : Outline Bool) {s : Front}
    {negated : Bool} {p : Bool × Bool} (h : s.Settles ctx negated p) :
    (x.expr.regroup s).Settles ctx (x.walk negated p) := by
  induction x generalizing s negated p with
  | test b =>
    have hb := settles_expr hctx (.test b)
    cases b with
    | true => exact h.take hb
    | false => exact h.take hb
  | paren o ih => exact h.take (ih (Front.settles_start ctx)).whole.paren
  | not o ih => exact ih ⟨h.disjuncts, h.conjuncts, rfl⟩
  | and l r ihl ihr => exact ihr ⟨(ihl h).disjuncts, (ihl h).conjunction, rfl⟩
  | or l r ihl ihr => exact ihr ⟨(ihl h).whole, rfl, rfl⟩

/-- What is read from the text of a test has the value that is read from its outline. -/
theorem settles_reread (hctx : ctx.functions = constants) (x : Outline Bool) :
    x.expr.reread.Settles ctx x.reading :=
  (x.settles_regroup hctx (Front.settles_start ctx)).whole

end Outline

end Values

/-- What a filter finds in an array with one item. -/
theorem execute_filter {e : Expr} {b : Bool} (h : e.Settles ⟨.array [.null], constants⟩ b) :
    Prepared.execute ⟨empty.filter e, constants⟩ (.array [.null])
      = .ok (if b then [.null] else []) := by
  have hselect (n : Json) : (Selector.filter e).select ⟨.array [.null], constants⟩ n
      = keep (fun _ => do Eval.poll; return b) n.children := by
    rw [Selector.select]
    refine congrArg (keep · n.children) (funext fun child => ?_)
    rw [h child]
    rfl
  simp only [Prepared.execute, Prepared.executeUnder, Prepared.run, empty, filter, add,
    List.nil_append, applyAll, Segment.apply, selectAll, hselect]
  cases b <;> rfl

/-! ## Lossy outlines -/

namespace Outline

/-- With some truth values at the tests, the text of a filter says what finds something else. -/
def IsLossy (o : Outline Unit) : Prop :=
  ∃ (x : Outline Bool) (q' : Query), x.bare = o ∧ ofText (empty.filter x.expr).toText = .ok q' ∧
    ∃ (functions : Registry) (document : Json), Prepared.execute ⟨q', functions⟩ document
      ≠ Prepared.execute ⟨empty.filter x.expr, functions⟩ document

/-- A query with such a test as its filter is built. -/
theorem isBuilt_filter (x : Outline Bool) : (empty.filter x.expr).isBuilt = true := by
  simp only [isBuilt, empty, filter, add, List.nil_append, areSpellableSegments,
    Segment.isSpellable, areSpellableSelectors, Selector.isSpellable, x.isSpellable_expr,
    areBuiltSegments, Segment.isBuilt, areBuiltSelectors, Selector.isBuilt, x.isBuilt_expr,
    Bool.and_self]

/-- If another value is read from an outline than the one it has, something else is found. -/
theorem isLossy_of_reading_ne {x : Outline Bool} (hr : x.bare.isReadable = true)
    (hne : x.reading ≠ x.verdict) : x.bare.IsLossy := by
  have hreadable : areReadableSegments (empty.filter x.expr).segments = true := by
    simp only [empty, filter, add, List.nil_append, areReadableSegments, Segment.isReadable,
      areReadableSelectors, Selector.isReadable, x.isReadable_expr, hr, List.isEmpty_cons,
      Bool.not_false, Bool.and_self]
  have hread : (empty.filter x.expr).reread = empty.filter x.expr.reread := rfl
  refine ⟨x, (empty.filter x.expr).reread, rfl,
    (ofText_toText_of_isBuilt x.isBuilt_filter).mpr ⟨hreadable, rfl⟩, constants, .array [.null], ?_⟩
  rw [hread, execute_filter (x.settles_reread rfl), execute_filter (x.settles_expr rfl)]
  refine fun heq => hne ?_
  generalize x.reading = a at heq ⊢
  generalize x.verdict = b at heq ⊢
  cases a with
  | true =>
    cases b with
    | true => rfl
    | false => cases heq
  | false =>
    cases b with
    | true => cases heq
    | false => rfl

/-- The lossy outlines are those that are not grouped. -/
theorem isLossy_iff {o : Outline Unit} (hr : o.isReadable = true) :
    o.IsLossy ↔ o.isGrouped = false := by
  refine ⟨?_, ?_⟩
  · rintro ⟨x, q', rfl, hq', functions, document, hne⟩
    obtain ⟨-, rfl⟩ := (ofText_toText_of_isBuilt x.isBuilt_filter).mp hq'
    refine Bool.eq_false_of_not_eq_true fun hg => hne ?_
    have hgrouped : (empty.filter x.expr).isGrouped = true := by
      simp only [Query.isGrouped, empty, filter, add, List.nil_append, areGroupedSegments,
        Segment.isGrouped, areGroupedSelectors, Selector.isGrouped, x.isGrouped_expr, hg,
        Bool.and_self]
    rw [Prepared.execute, Prepared.execute, Prepared.executeUnder, Prepared.executeUnder,
      run_reread hgrouped]
  · intro hg
    by_contra hlossy
    have hagrees : o.Agrees := by
      rintro x rfl
      by_contra hne
      exact hlossy (isLossy_of_reading_ne hr (Ne.symm hne))
    exact absurd (hagrees.isGrouped hr) (hg ▸ Bool.false_ne_true)

end Outline

/-! ## Canonical text of built queries -/

/-- **Loss of grouping.** What is read from the text of a built query is `reread`. If the query
is grouped, then that goes through the same steps and finds the same nodes, in every document and
with any functions. If it is a filter whose outline is not grouped, then the outline is lossy. -/
theorem run_of_ofText_toText (q q' : Query) (hq : q.isBuilt = true)
    (h : ofText q.toText = .ok q') :
    q' = q.reread ∧
      (q.isGrouped = true → ∀ (functions : Registry) (document : Json),
        Prepared.run ⟨q', functions⟩ document = Prepared.run ⟨q, functions⟩ document) ∧
      ∀ e, q = empty.filter e → (e.outline.IsLossy ↔ e.outline.isGrouped = false) := by
  obtain ⟨hr, rfl⟩ := (ofText_toText_of_isBuilt hq).mp h
  refine ⟨rfl, run_reread, ?_⟩
  rintro e rfl
  refine Outline.isLossy_iff (e.isReadable_outline ?_)
  simpa [empty, filter, add, areReadableSegments, Segment.isReadable, areReadableSelectors,
    Selector.isReadable] using hr

/-- The query `$[?@.a || @.b && @.c]`, built as it is read. -/
theorem run_of_ofText_toText_grouped :
    let test (name : String) : Expr := .nodes .current [.dot .children (.shorthand name)]
    let q := empty.filter (.binary .or (test "a") (.binary .and (test "b") (test "c")))
    q.isBuilt = true ∧ q.isGrouped = true ∧ ∃ q', ofText q.toText = .ok q' ∧
      ∀ (functions : Registry) (document : Json),
        Prepared.run ⟨q', functions⟩ document = Prepared.run ⟨q, functions⟩ document := by
  intro test q
  have hq : q.isBuilt = true := by decide
  have hr : areReadableSegments q.segments = true := by decide
  have h := (ofText_toText_of_isBuilt hq).mpr ⟨hr, rfl⟩
  exact ⟨hq, by decide, _, h, (run_of_ofText_toText q _ hq h).2.1 (by decide)⟩

/-- The query for the children that have `c`, and `a` or `b`, says another one: without parentheses
the disjunction falls apart. A child with nothing but `a` is not found, but what the text says
finds it. -/
theorem run_of_ofText_toText_ungrouped :
    let test (name : String) : Expr := .nodes .current [.dot .children (.shorthand name)]
    let q := empty.filter (.binary .and (.binary .or (test "a") (test "b")) (test "c"))
    let document := Json.array [.object [("a", .null)]]
    q.isBuilt = true ∧ ∃ q', ofText q.toText = .ok q' ∧
      Prepared.execute ⟨q, .builtin⟩ document = .ok [] ∧
      Prepared.execute ⟨q', .builtin⟩ document = .ok [.object [("a", .null)]] := by
  intro test q document
  have hq : q.isBuilt = true := by decide
  have hr : areReadableSegments q.segments = true := by decide
  exact ⟨hq, _, (ofText_toText_of_isBuilt hq).mpr ⟨hr, rfl⟩, rfl, rfl⟩

end JsonPath.Query
