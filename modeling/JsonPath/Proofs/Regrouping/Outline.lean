import Mathlib.Order.BooleanAlgebra.Basic
import JsonPath.Proofs.Regrouping

/-!
# Outlines of tests

The outline of a test is what holds it together: connectives, negations and parentheses. With truth
values at its tests an outline has two values: the one that the test has as it is built (`verdict`),
and the one of what its text says (`reading`). If they agree whatever is at the tests, then the
outline is grouped (`Agrees.isGrouped`).
-/

namespace JsonPath.Query

/-- The connectives, negations and parentheses of a test, with something at the tests in it. -/
inductive Outline (α : Type) where
  | test (a : α)
  | paren (o : Outline α)
  | not (o : Outline α)
  | and (l r : Outline α)
  | or (l r : Outline α)

namespace Outline

variable {α : Type}

/-- The outline alone. -/
def bare : Outline α → Outline Unit
  | test _ => test ()
  | paren o => paren o.bare
  | not o => not o.bare
  | and l r => and l.bare r.bare
  | or l r => or l.bare r.bare

/-- Whether the first test is one that can be negated. -/
def startsSimple : Outline α → Bool
  | test _ => true
  | paren _ => true
  | not _ => false
  | and l _ => l.startsSimple
  | or l _ => l.startsSimple

/-- Whether negations are in front of simple tests. -/
def isReadable : Outline α → Bool
  | test _ => true
  | paren o => o.isReadable
  | not o => o.startsSimple && o.isReadable
  | and l r => l.isReadable && r.isReadable
  | or l r => l.isReadable && r.isReadable

/-- Whether the outline is a disjunction. -/
def isDisjunction : Outline α → Bool
  | or _ _ => true
  | _ => false

/-- Whether a negation in front of the outline applies to all of it. -/
def isSimple : Outline α → Bool
  | test _ => true
  | paren _ => true
  | _ => false

/-- Whether every operand is kept together. -/
def isGrouped : Outline α → Bool
  | test _ => true
  | paren o => o.isGrouped
  | not o => o.isSimple && o.isGrouped
  | and l r => !l.isDisjunction && !r.isDisjunction && (l.isGrouped && r.isGrouped)
  | or l r => l.isGrouped && r.isGrouped

theorem isSimple_bare (o : Outline α) : o.bare.isSimple = o.isSimple := by
  cases o <;> rfl

/-! ## Truth values -/

/-- The value of a test as it is built. -/
def verdict : Outline Bool → Bool
  | test b => b
  | paren o => o.verdict
  | not o => !o.verdict
  | and l r => l.verdict && r.verdict
  | or l r => l.verdict || r.verdict

/-- The value of a chain: whether a complete disjunct holds, or the conjunction behind them. -/
def whole (p : Bool × Bool) : Bool := p.1 || p.2

/-- What holds at the end of a text, if it is known what holds in front of it: whether one of the
complete disjuncts, and whether all conjuncts behind them. -/
def walk : Outline Bool → Bool → Bool × Bool → Bool × Bool
  | test b, negated, p => (p.1, p.2 && (b ^^ negated))
  | paren o, negated, p => (p.1, p.2 && (whole (o.walk false (false, true)) ^^ negated))
  | not o, _, p => o.walk true p
  | and l r, negated, p => r.walk false (l.walk negated p)
  | or l r, negated, p => r.walk false (whole (l.walk negated p), true)

/-- The value of what the text says. -/
def reading (x : Outline Bool) : Bool := whole (x.walk false (false, true))

theorem whole_mono {p q : Bool × Bool} (h : p ≤ q) : whole p ≤ whole q := sup_le_sup h.1 h.2

/-- More that holds in front never makes less hold behind. -/
theorem walk_mono (x : Outline Bool) (negated : Bool) {p q : Bool × Bool} (h : p ≤ q) :
    x.walk negated p ≤ x.walk negated q := by
  induction x generalizing negated p q with
  | test b => exact ⟨h.1, inf_le_inf h.2 le_rfl⟩
  | paren o => exact ⟨h.1, inf_le_inf h.2 le_rfl⟩
  | not o ih => exact ih true h
  | and l r ihl ihr => exact ihr false (ihl negated h)
  | or l r ihl ihr => exact ihr false ⟨whole_mono (ihl negated h), le_rfl⟩

/-- A disjunct that holds stays, and has no effect on what follows. -/
theorem walk_eq (x : Outline Bool) (negated : Bool) (d z : Bool) :
    x.walk negated (d, z)
      = (d || (x.walk negated (false, z)).1, (x.walk negated (false, z)).2) := by
  induction x generalizing negated d z with
  | test b => simp [walk]
  | paren o => simp [walk]
  | not o ih => exact ih true d z
  | and l r ihl ihr =>
    rw [walk, walk, ihl negated d z]
    obtain ⟨a, b⟩ := l.walk negated (false, z)
    rw [ihr false (d || a) b, ihr false a b, Bool.or_assoc]
  | or l r ihl ihr =>
    rw [walk, walk, ihl negated d z]
    obtain ⟨a, b⟩ := l.walk negated (false, z)
    simp only [whole]
    rw [ihr false (d || a || b) true, ihr false (a || b) true, Bool.or_assoc, Bool.or_assoc,
      Bool.or_assoc]

/-- What is a disjunct already stays one, whatever follows. -/
theorem whole_walk (x : Outline Bool) (negated : Bool) (d z : Bool) :
    whole (x.walk negated (d, z)) = (d || whole (x.walk negated (false, z))) := by
  rw [walk_eq, whole, whole, Bool.or_assoc]

/-- A disjunction is read as the disjunction of both parts. -/
theorem reading_or (l r : Outline Bool) : (or l r).reading = (l.reading || r.reading) :=
  r.whole_walk false l.reading true

/-- A simple outline is negated as a whole. -/
theorem reading_not {x : Outline Bool} (h : x.isSimple = true) : (not x).reading = !x.reading := by
  cases x with
  | test b => cases b <;> rfl
  | paren o =>
    rw [reading, reading, walk, walk, walk]
    cases whole (o.walk false (false, true)) <;> rfl
  | not _ => cases h
  | and _ _ => cases h
  | or _ _ => cases h

/-! ## Choosing truth values -/

/-- There are truth values with which the outline is false and such with which it is true, and with
the latter more holds at the end of its text. -/
def Rises (o : Outline Unit) : Prop :=
  ∃ x y : Outline Bool, x.bare = o ∧ y.bare = o ∧ x.verdict = false ∧ y.verdict = true ∧
    ∀ p, x.walk false p ≤ y.walk false p

/-- The same behind a negation, where less holds at the end. -/
def Falls (o : Outline Unit) : Prop :=
  ∃ x y : Outline Bool, x.bare = o ∧ y.bare = o ∧ x.verdict = false ∧ y.verdict = true ∧
    ∀ p, y.walk true p ≤ x.walk true p

section

variable {o l r : Outline Unit}

theorem rises_and_falls_test : Rises (test ()) ∧ Falls (test ()) := by
  have hle (p : Bool × Bool) : (p.1, p.2 && false) ≤ (p.1, p.2 && true) :=
    ⟨le_rfl, inf_le_inf le_rfl (Bool.false_le true)⟩
  exact ⟨⟨test false, test true, rfl, rfl, rfl, rfl, hle⟩,
    ⟨test false, test true, rfl, rfl, rfl, rfl, hle⟩⟩

/-- In parentheses an outline can be taken either way. -/
theorem Rises.paren (h : o.Rises) : (paren o).Rises ∧ (paren o).Falls := by
  obtain ⟨x, y, rfl, hy, hxv, hyv, hle⟩ := h
  have hreading : x.reading ≤ y.reading := whole_mono (hle (false, true))
  refine ⟨⟨.paren x, .paren y, rfl, congrArg Outline.paren hy, hxv, hyv, fun p => ?_⟩,
    ⟨.paren x, .paren y, rfl, congrArg Outline.paren hy, hxv, hyv, fun p => ?_⟩⟩
  · refine ⟨le_rfl, inf_le_inf le_rfl ?_⟩
    rw [Bool.xor_false, Bool.xor_false]
    exact hreading
  · refine ⟨le_rfl, inf_le_inf le_rfl ?_⟩
    rw [Bool.xor_true, Bool.xor_true]
    exact compl_le_compl hreading

theorem Falls.not (h : o.Falls) : (not o).Rises := by
  obtain ⟨x, y, rfl, hy, hxv, hyv, hle⟩ := h
  refine ⟨.not y, .not x, congrArg Outline.not hy, rfl, ?_, ?_, hle⟩
  · rw [verdict, hyv, Bool.not_true]
  · rw [verdict, hxv, Bool.not_false]

theorem Rises.and (hl : l.Rises) (hr : r.Rises) : (and l r).Rises := by
  obtain ⟨x, y, rfl, hy, hxv, hyv, hle⟩ := hl
  obtain ⟨x', y', rfl, hy', hxv', hyv', hle'⟩ := hr
  refine ⟨.and x x', .and y y', rfl, congrArg₂ Outline.and hy hy', ?_, ?_, fun p => ?_⟩
  · rw [verdict, hxv, Bool.false_and]
  · rw [verdict, hyv, hyv', Bool.and_true]
  · exact (hle' _).trans (y'.walk_mono false (hle p))

/-- The negation reaches no further than the first operand, so the other one can be true. -/
theorem Falls.and (hl : l.Falls) (hr : r.Rises) : (and l r).Falls := by
  obtain ⟨x, y, rfl, hy, hxv, hyv, hle⟩ := hl
  obtain ⟨x', y', rfl, hy', hxv', hyv', hle'⟩ := hr
  refine ⟨.and x y', .and y y', congrArg (Outline.and x.bare) hy', congrArg₂ Outline.and hy hy',
    ?_, ?_, fun p => y'.walk_mono false (hle p)⟩
  · rw [verdict, hxv, Bool.false_and]
  · rw [verdict, hyv, hyv', Bool.and_true]

theorem Rises.or (hl : l.Rises) (hr : r.Rises) : (or l r).Rises := by
  obtain ⟨x, y, rfl, hy, hxv, hyv, hle⟩ := hl
  obtain ⟨x', y', rfl, hy', hxv', hyv', hle'⟩ := hr
  refine ⟨.or x x', .or y y', rfl, congrArg₂ Outline.or hy hy', ?_, ?_, fun p => ?_⟩
  · rw [verdict, hxv, hxv', Bool.or_false]
  · rw [verdict, hyv, Bool.true_or]
  · exact (hle' _).trans (y'.walk_mono false ⟨whole_mono (hle p), le_rfl⟩)

/-- The negation reaches no further than the first operand, so the other one can be false. -/
theorem Falls.or (hl : l.Falls) (hr : r.Rises) : (or l r).Falls := by
  obtain ⟨x, y, rfl, hy, hxv, hyv, hle⟩ := hl
  obtain ⟨x', y', rfl, hy', hxv', hyv', hle'⟩ := hr
  refine ⟨.or x x', .or y x', rfl, congrArg (Outline.or · x'.bare) hy, ?_, ?_,
    fun p => x'.walk_mono false ⟨whole_mono (hle p), le_rfl⟩⟩
  · rw [verdict, hxv, hxv', Bool.or_false]
  · rw [verdict, hyv, Bool.true_or]

end

/-- Every outline that can be read rises, and falls if it starts simply. -/
theorem rises_and_falls {o : Outline Unit} (h : o.isReadable = true) :
    o.Rises ∧ (o.startsSimple = true → o.Falls) := by
  induction o with
  | test => exact ⟨rises_and_falls_test.1, fun _ => rises_and_falls_test.2⟩
  | paren o ih =>
    have hparen := (ih h).1.paren
    exact ⟨hparen.1, fun _ => hparen.2⟩
  | not o ih =>
    rw [isReadable, Bool.and_eq_true] at h
    exact ⟨((ih h.2).2 h.1).not, nofun⟩
  | and l r ihl ihr =>
    rw [isReadable, Bool.and_eq_true] at h
    have hr := (ihr h.2).1
    exact ⟨(ihl h.1).1.and hr, fun hs => ((ihl h.1).2 hs).and hr⟩
  | or l r ihl ihr =>
    rw [isReadable, Bool.and_eq_true] at h
    have hr := (ihr h.2).1
    exact ⟨(ihl h.1).1.or hr, fun hs => ((ihl h.1).2 hs).or hr⟩

/-- An outline that can be read can have either truth value. -/
theorem exists_verdict {o : Outline Unit} (h : o.isReadable = true) (b : Bool) :
    ∃ x : Outline Bool, x.bare = o ∧ x.verdict = b := by
  obtain ⟨x, y, hx, hy, hxv, hyv, -⟩ := (rises_and_falls h).1
  cases b with
  | false => exact ⟨x, hx, hxv⟩
  | true => exact ⟨y, hy, hyv⟩

/-! ## Outlines that keep their value -/

/-- The text of the outline has the value of the outline, whatever is at the tests. -/
def Agrees (o : Outline Unit) : Prop := ∀ x : Outline Bool, x.bare = o → x.verdict = x.reading

namespace Agrees

variable {o l r : Outline Unit}

theorem paren (h : (Outline.paren o).Agrees) : o.Agrees := by
  intro x hx
  have hp := h (.paren x) (congrArg Outline.paren hx)
  rwa [verdict, reading, walk, Bool.xor_false, whole, Bool.false_or, Bool.true_and] at hp

/-- A negation agrees only if the outline under it does. -/
theorem not (h : (Outline.not o).Agrees) (hs : o.isSimple = true) : o.Agrees := by
  intro x hx
  rw [← hx, isSimple_bare] at hs
  have hn := h (.not x) (congrArg Outline.not hx)
  rw [verdict, reading_not hs] at hn
  exact Bool.not_inj hn

/-- With truth values that make one operand false, nothing is left of it in the disjunction. -/
theorem or (h : (Outline.or l r).Agrees) (hl : l.isReadable = true) (hr : r.isReadable = true) :
    l.Agrees ∧ r.Agrees := by
  have hor (x y : Outline Bool) (hx : x.bare = l) (hy : y.bare = r) :
      (x.verdict || y.verdict) = (x.reading || y.reading) :=
    (h (.or x y) (congrArg₂ Outline.or hx hy)).trans (reading_or x y)
  obtain ⟨x₀, hx₀, hxv⟩ := exists_verdict hl false
  obtain ⟨y₀, hy₀, hyv⟩ := exists_verdict hr false
  have h₀ := hor x₀ y₀ hx₀ hy₀
  rw [hxv, hyv, Bool.or_false, eq_comm, Bool.or_eq_false_iff] at h₀
  refine ⟨?_, ?_⟩
  · intro x hx
    have hx := hor x y₀ hx hy₀
    rwa [hyv, h₀.2, Bool.or_false, Bool.or_false] at hx
  · intro y hy
    have hy := hor x₀ y hx₀ hy
    rwa [hxv, h₀.1, Bool.false_or, Bool.false_or] at hy

/-- In front of an operand that can be false nothing is complete, and behind one that can be false
nothing is complete that does not need it. -/
theorem and_separate (h : (Outline.and l r).Agrees) (hl : l.isReadable = true)
    (hr : r.isReadable = true) :
    (∀ x : Outline Bool, x.bare = l → (x.walk false (false, true)).1 = false) ∧
      ∀ y : Outline Bool, y.bare = r → whole (y.walk false (false, false)) = false := by
  have hand (x y : Outline Bool) (hx : x.bare = l) (hy : y.bare = r) :
      (x.verdict && y.verdict) = ((x.walk false (false, true)).1 ||
        whole (y.walk false (false, (x.walk false (false, true)).2))) :=
    (h (.and x y) (congrArg₂ Outline.and hx hy)).trans (y.whole_walk false _ _)
  obtain ⟨x₀, hx₀, hxv⟩ := exists_verdict hl false
  obtain ⟨y₀, hy₀, hyv⟩ := exists_verdict hr false
  refine ⟨?_, ?_⟩
  · intro x hx
    have hx := hand x y₀ hx hy₀
    rw [hyv, Bool.and_false, eq_comm, Bool.or_eq_false_iff] at hx
    exact hx.1
  · intro y hy
    have hy := hand x₀ y hx₀ hy
    rw [hxv, Bool.false_and, eq_comm, Bool.or_eq_false_iff] at hy
    have hle : whole (y.walk false (false, false))
        ≤ whole (y.walk false (false, (x₀.walk false (false, true)).2)) :=
      whole_mono (y.walk_mono false ⟨le_rfl, Bool.false_le _⟩)
    rw [hy.2] at hle
    exact Bool.eq_false_of_le_false hle

/-- A conjunction agrees only if both parts do. -/
theorem and (h : (Outline.and l r).Agrees) (hl : l.isReadable = true) (hr : r.isReadable = true) :
    l.Agrees ∧ r.Agrees := by
  obtain ⟨hfirst, hsecond⟩ := h.and_separate hl hr
  have hand (x y : Outline Bool) (hx : x.bare = l) (hy : y.bare = r) :
      (x.verdict && y.verdict) = (x.reading && y.reading) := by
    have hxy : (x.verdict && y.verdict) = whole (y.walk false (x.walk false (false, true))) :=
      h (.and x y) (congrArg₂ Outline.and hx hy)
    have hd := hfirst x hx
    rw [hxy, reading, reading]
    generalize x.walk false (false, true) = p at hd
    obtain ⟨d, z⟩ := p
    obtain rfl : d = false := hd
    cases z with
    | true => rfl
    | false => exact hsecond y hy
  obtain ⟨x₁, hx₁, hxv⟩ := exists_verdict hl true
  obtain ⟨y₁, hy₁, hyv⟩ := exists_verdict hr true
  have h₁ := hand x₁ y₁ hx₁ hy₁
  rw [hxv, hyv, Bool.and_true, eq_comm, Bool.and_eq_true] at h₁
  refine ⟨?_, ?_⟩
  · intro x hx
    have hx := hand x y₁ hx hy₁
    rwa [hyv, h₁.2, Bool.and_true, Bool.and_true] at hx
  · intro y hy
    have hy := hand x₁ y hx₁ hy
    rwa [hxv, h₁.1, Bool.true_and, Bool.true_and] at hy

/-- The first operand of a disjunction would be complete in front of the `&&`. -/
theorem and_left (h : (Outline.and l r).Agrees) (hl : l.isReadable = true)
    (hr : r.isReadable = true) : l.isDisjunction = false := by
  match l with
  | .or a b =>
    obtain ⟨hfirst, -⟩ := h.and_separate hl hr
    have hor := (h.and hl hr).1
    rw [isReadable, Bool.and_eq_true] at hl
    obtain ⟨x, hx, hxv⟩ := exists_verdict hl.1 true
    obtain ⟨y, hy, -⟩ := exists_verdict hl.2 true
    have hd := hfirst (.or x y) (congrArg₂ Outline.or hx hy)
    rw [walk, walk_eq, Bool.or_eq_false_iff] at hd
    have hxr : x.verdict = x.reading := (hor.or hl.1 hl.2).1 x hx
    exact absurd (hd.1.symm.trans (hxr.symm.trans hxv)) Bool.false_ne_true
  | .test _ => rfl
  | .paren _ => rfl
  | .not _ => rfl
  | .and _ _ => rfl

/-- The last operand of a disjunction would not need what is in front of the `&&`. -/
theorem and_right (h : (Outline.and l r).Agrees) (hl : l.isReadable = true)
    (hr : r.isReadable = true) : r.isDisjunction = false := by
  match r with
  | .or a b =>
    obtain ⟨-, hsecond⟩ := h.and_separate hl hr
    have hor := (h.and hl hr).2
    rw [isReadable, Bool.and_eq_true] at hr
    obtain ⟨x, hx, -⟩ := exists_verdict hr.1 true
    obtain ⟨y, hy, hyv⟩ := exists_verdict hr.2 true
    have hz := hsecond (.or x y) (congrArg₂ Outline.or hx hy)
    rw [walk, whole_walk, Bool.or_eq_false_iff] at hz
    have hyr : y.verdict = y.reading := (hor.or hr.1 hr.2).2 y hy
    exact absurd (hz.2.symm.trans (hyr.symm.trans hyv)) Bool.false_ne_true
  | .test _ => rfl
  | .paren _ => rfl
  | .not _ => rfl
  | .and _ _ => rfl

/-- A negation in front of a connective does not reach the second operand. Where the value of the
whole depends on that operand, the two depend on it in opposite ways. -/
theorem not_isSimple (h : (Outline.not o).Agrees) (hs : o.startsSimple = true)
    (hr : o.isReadable = true) : o.isSimple = true := by
  match o with
  | .test _ => rfl
  | .paren _ => rfl
  | .and l r =>
    rw [isReadable, Bool.and_eq_true] at hr
    obtain ⟨x, hx, hxv⟩ := exists_verdict hr.1 true
    obtain ⟨y, y', hy, hy', hyv, hyv', hle⟩ := (rises_and_falls hr.2).1
    have hn := h (.not (.and x y)) (congrArg Outline.not (congrArg₂ Outline.and hx hy))
    have hn' := h (.not (.and x y')) (congrArg Outline.not (congrArg₂ Outline.and hx hy'))
    have hmono : reading (.not (.and x y)) ≤ reading (.not (.and x y')) := whole_mono (hle _)
    rw [← hn, ← hn', verdict, verdict, verdict, verdict, hxv, hyv, hyv'] at hmono
    exact absurd hmono (by decide)
  | .or l r =>
    rw [isReadable, Bool.and_eq_true] at hr
    obtain ⟨x, hx, hxv⟩ := exists_verdict hr.1 false
    obtain ⟨y, y', hy, hy', hyv, hyv', hle⟩ := (rises_and_falls hr.2).1
    have hn := h (.not (.or x y)) (congrArg Outline.not (congrArg₂ Outline.or hx hy))
    have hn' := h (.not (.or x y')) (congrArg Outline.not (congrArg₂ Outline.or hx hy'))
    have hmono : reading (.not (.or x y)) ≤ reading (.not (.or x y')) := whole_mono (hle _)
    rw [← hn, ← hn', verdict, verdict, verdict, verdict, hxv, hyv, hyv'] at hmono
    exact absurd hmono (by decide)

/-- Only the text of a grouped outline has the value of the outline, whatever is at the tests. -/
theorem isGrouped (h : o.Agrees) (hr : o.isReadable = true) : o.isGrouped = true := by
  induction o with
  | test a => rfl
  | paren o ih => exact ih h.paren hr
  | not o ih =>
    rw [isReadable, Bool.and_eq_true] at hr
    have hsimple := h.not_isSimple hr.1 hr.2
    rw [Outline.isGrouped, hsimple, Bool.true_and]
    exact ih (h.not hsimple) hr.2
  | and l r ihl ihr =>
    have hr' := hr
    rw [isReadable, Bool.and_eq_true] at hr'
    obtain ⟨hl, hr⟩ := hr'
    obtain ⟨hla, hra⟩ := h.and hl hr
    rw [Outline.isGrouped, h.and_left hl hr, h.and_right hl hr, ihl hla hl, ihr hra hr]
    rfl
  | or l r ihl ihr =>
    rw [isReadable, Bool.and_eq_true] at hr
    obtain ⟨hla, hra⟩ := h.or hr.1 hr.2
    rw [Outline.isGrouped, ihl hla hr.1, ihr hra hr.2]
    rfl

end Agrees

end Outline

end JsonPath.Query
