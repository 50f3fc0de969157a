import JsonPath.Proofs.Reading

/-!
# Every phrase is read

Where the tokens of a phrase lie ahead, the reading function for it passes exactly these tokens and
returns what the phrase stands for. A function that reads on for as long as it can does so only if
what comes next cannot be part of the phrase as well; `EndsSegments` and the predicates behind it
say which tokens cannot.

The grammar cuts a chain of `||` or `&&` at its last operator, while the functions come upon the
first one first. So the statements about chains are about what happens next: if the loop, holding
what the chain stands for, goes on from its end to read `e`, then `e` is read from its start.
-/

namespace JsonPath.Query

open JsonPath.Token Grammar

namespace Phrase

/-! ## The tokens behind a phrase -/

/-- No segment starts with a token of this kind. -/
structure EndsSegments (k : Kind) : Prop where
  openBracket : k ≠ .openBracket
  dot : k ≠ .dot
  dotDot : k ≠ .dotDot

/-- No test goes on with a token of this kind. -/
structure EndsTest (k : Kind) : Prop extends EndsSegments k where
  comparison : comparison? k = none

/-- No conjunction goes on with a token of this kind. -/
structure EndsConjunction (k : Kind) : Prop extends EndsTest k where
  conjunction : k ≠ .conjunction

/-- No disjunction goes on with a token of this kind. -/
structure EndsDisjunction (k : Kind) : Prop extends EndsConjunction k where
  disjunction : k ≠ .disjunction

/-- A comparison operator ends the segments in front of it. -/
theorem endsSegments_of_comparison {k : Kind} {op : Comparison} (h : comparison? k = some op) :
    EndsSegments k := by
  refine ⟨?_, ?_, ?_⟩ <;>
    · rintro rfl
      cases h

theorem endsDisjunction_comma : EndsDisjunction .comma :=
  ⟨⟨⟨⟨nofun, nofun, nofun⟩, rfl⟩, nofun⟩, nofun⟩

theorem endsDisjunction_closeBracket : EndsDisjunction .closeBracket :=
  ⟨⟨⟨⟨nofun, nofun, nofun⟩, rfl⟩, nofun⟩, nofun⟩

theorem endsDisjunction_closeParen : EndsDisjunction .closeParen :=
  ⟨⟨⟨⟨nofun, nofun, nofun⟩, rfl⟩, nofun⟩, nofun⟩

theorem endsConjunction_disjunction : EndsConjunction .disjunction :=
  ⟨⟨⟨nofun, nofun, nofun⟩, rfl⟩, nofun⟩

theorem endsTest_conjunction : EndsTest .conjunction := ⟨⟨nofun, nofun, nofun⟩, rfl⟩

theorem endsSegments_endOfInput : EndsSegments .endOfInput := ⟨nofun, nofun, nofun⟩

variable {c d d' : Cursor} {ts : List Token}

/-! ## Phrases without parts -/

theorem literal_complete {t : Token} {e : Expr} (h : IsLiteral t e) (ht : c.Through [t] d) :
    IsLiteral c.token e ∧ d = c.skip := ⟨ht.uncons.1 ▸ h, ht.eq_skip⟩

/-- What may follow a dot is read behind one. -/
theorem dotted_complete {t : Token} {s : Selector} (h : IsDotted t s) (ht : c.Through [t] d) :
    Reads (dotted c) s d :=
  reads_dotted_iff.mpr ⟨ht.uncons.1 ▸ h, ht.eq_skip⟩

/-- A bound is read to its end if no integer follows it. -/
theorem bound_complete {b : Option Int64} (h : IsBound ts b) (ht : c.Through ts d)
    (hd : d.kind ≠ .integer) : Reads (bound c) b d := by
  rw [reads_bound_iff]
  cases h with
  | absent =>
    have hdc := ht.eq_of_nil
    exact .inl ⟨hdc ▸ hd, rfl, hdc⟩
  | present h => exact .inr ⟨_, ht.uncons.1 ▸ h, rfl, ht.eq_skip⟩

/-- A step is read to its end if no integer and no colon follow it. -/
theorem stepBound_complete {b : Option Int64} (h : IsStep ts b) (ht : c.Through ts d)
    (hi : d.kind ≠ .integer) (hc : d.kind ≠ .colon) : Reads (stepBound c) b d := by
  rw [reads_stepBound_iff]
  cases h with
  | absent =>
    have hdc := ht.eq_of_nil
    exact .inl ⟨hdc ▸ hc, rfl, hdc⟩
  | present hk h => exact .inr ⟨ht.kind_eq.trans hk, bound_complete h ht.uncons.2 hi⟩

/-- In front of the step of a slice, or where there is none, no integer lies ahead. -/
theorem kind_ne_integer_of_isStep {b : Option Int64} (h : IsStep ts b) (ht : c.Through ts d)
    (hi : d.kind ≠ .integer) : c.kind ≠ .integer := by
  cases h with
  | absent => exact ht.eq_of_nil ▸ hi
  | present hk _ =>
    rw [ht.kind_eq, hk]
    decide

/-- An index or a slice starts with an integer or a colon. -/
theorem kind_of_isBound {b : Option Int64} {colon : Token} {us : List Token} (h : IsBound ts b)
    (hk : colon.kind = .colon) (ht : c.Through (ts ++ colon :: us) d) :
    c.kind = .integer ∨ c.kind = .colon := by
  cases h with
  | absent => exact .inr (ht.kind_eq.trans hk)
  | present h => exact .inl (ht.kind_eq.trans h.kind)

/-! ## Phrases with parts -/

/-- Where a disjunction ends, nothing is added to it. -/
theorem moreDisjuncts_ends {e : Expr} (hd : EndsDisjunction d.kind) :
    Reads (moreDisjuncts e d) e d := reads_moreDisjuncts_iff.mpr (.inr ⟨hd.disjunction, rfl, rfl⟩)

/-- Where a conjunction ends, nothing is added to it. -/
theorem moreConjuncts_ends {e : Expr} (hd : EndsConjunction d.kind) :
    Reads (moreConjuncts e d) e d := reads_moreConjuncts_iff.mpr (.inr ⟨hd.conjunction, rfl, rfl⟩)

mutual

/-- Segments are read to their end if nothing follows that goes on with them; the theorems that
follow say so of each kind of phrase. -/
theorem segments_complete {ts ss c d} (h : IsSegments ts ss) (ht : c.Through ts d)
    (hd : EndsSegments d.kind) : Reads (segments c) ss d := by
  match h with
  | .nil =>
    rw [ht.eq_of_nil] at hd ⊢
    exact reads_segments_iff.mpr (.none hd.openBracket hd.dot hd.dotDot)
  | .cons head tail =>
    obtain ⟨c₁, ht₁, ht₂⟩ := ht.split
    exact segment_complete head ht₁ (segments_complete tail ht₂ hd)

/-- Behind a segment, the others are read. -/
theorem segment_complete {ts s ss c d d'} (h : IsSegment ts s) (ht : c.Through ts d)
    (hm : Reads (segments d) ss d') : Reads (segments c) (s :: ss) d' := by
  rw [reads_segments_iff]
  match h with
  | .brackets h =>
    obtain ⟨hk, hs⟩ := selection_complete h ht
    exact .brackets hk hs hm
  | .dot hk h => exact .dot (ht.kind_eq.trans hk) (dotted_complete h ht.uncons.2) hm
  | .descendantBrackets hk h =>
    obtain ⟨hk', hs⟩ := selection_complete h ht.uncons.2
    exact .descendantBrackets (ht.kind_eq.trans hk) hk' hs hm
  | .descendantDot hk h =>
    refine .descendantDot (ht.kind_eq.trans hk) ?_ (dotted_complete h ht.uncons.2) hm
    rw [ht.uncons.2.kind_eq]
    cases h with
    | wildcard hk' => exact hk' ▸ by decide
    | name hk' => exact hk' ▸ by decide

/-- A selection is read whatever follows its bracket. -/
theorem selection_complete {ts ss} {c d : Cursor} (h : IsSelection ts ss) (ht : c.Through ts d) :
    c.kind = .openBracket ∧ Reads (selection c.skip) ss d := by
  match h with
  | .mk ho h hc =>
    rw [List.cons_append] at ht
    exact ⟨ht.kind_eq.trans ho, selectors_complete h hc ht.uncons.2⟩

theorem selectors_complete {ts ss c d t} (h : IsSelectors ts ss) (hk : t.kind = .closeBracket)
    (ht : c.Through (ts ++ [t]) d) : Reads (selection c) ss d := by
  rw [reads_selection_iff]
  match h with
  | .one h =>
    obtain ⟨c₁, ht₁, ht₂⟩ := ht.split
    have hk' := ht₂.kind_eq.trans hk
    exact ⟨_, c₁, [], selector_complete h ht₁ (.inr hk'),
      reads_moreSelectors_iff.mpr (.inr ⟨hk', rfl, ht₂.eq_skip⟩), rfl⟩
  | .more h hc tail =>
    rw [List.append_assoc, List.cons_append] at ht
    obtain ⟨c₁, ht₁, ht₂⟩ := ht.split
    have hk' := ht₂.kind_eq.trans hc
    exact ⟨_, c₁, _, selector_complete h ht₁ (.inl hk'), reads_moreSelectors_iff.mpr
      (.inl ⟨hk', selectors_complete tail hk ht₂.uncons.2⟩), rfl⟩

/-- A selector is read to the comma or the bracket behind it. -/
theorem selector_complete {ts s c d} (h : IsSelector ts s) (ht : c.Through ts d)
    (hd : d.kind = .comma ∨ d.kind = .closeBracket) : Reads (selector c) s d := by
  -- Neither a comma nor a bracket goes on with a slice.
  have hi : d.kind ≠ .integer := by rcases hd with hd | hd <;> exact hd ▸ by decide
  have hc : d.kind ≠ .colon := by rcases hd with hd | hd <;> exact hd ▸ by decide
  rw [reads_selector_iff]
  match h with
  | .name hk =>
    rw [ht.eq_skip, ← ht.uncons.1]
    exact .name (ht.kind_eq.trans hk)
  | .wildcard hk =>
    rw [ht.eq_skip]
    exact .wildcard (ht.kind_eq.trans hk)
  | .index h =>
    refine .indexOrSlice (.inl (ht.kind_eq.trans h.kind)) (reads_indexOrSlice_iff.mpr ?_)
    exact .index (bound_complete (.present h) ht hi) hc
  | .slice h₁ hk h₂ h₃ =>
    refine .indexOrSlice (kind_of_isBound h₁ hk ht) (reads_indexOrSlice_iff.mpr ?_)
    obtain ⟨c₁, ht₁, ht'⟩ := ht.split
    obtain ⟨c₂, ht₂, ht₃⟩ := ht'.uncons.2.split
    have hk' := ht'.kind_eq.trans hk
    exact .slice (bound_complete h₁ ht₁ (hk' ▸ by decide)) hk'
      (bound_complete h₂ ht₂ (kind_ne_integer_of_isStep h₃ ht₃ hi))
      (stepBound_complete h₃ ht₃ hi hc)
  | .filter hq h =>
    have hd' : EndsDisjunction d.kind := by
      rcases hd with hd | hd
      · exact hd ▸ endsDisjunction_comma
      · exact hd ▸ endsDisjunction_closeBracket
    exact .filter (ht.kind_eq.trans hq) (disjunction_continues h ht.uncons.2
      hd'.toEndsConjunction (moreDisjuncts_ends hd'))

/-- What the loop makes of a disjunction that it holds is read from the start of it. -/
theorem disjunction_continues {ts l e c d d'} (h : IsDisjunction ts l) (ht : c.Through ts d)
    (hd : EndsConjunction d.kind) (he : Reads (moreDisjuncts l d) e d') :
    Reads (disjunction c) e d' := by
  match h with
  | .one h => exact reads_disjunction_iff.mpr ⟨l, d,
      conjunction_continues h ht hd.toEndsTest (moreConjuncts_ends hd), he⟩
  | .more hl hb hr =>
    obtain ⟨c₁, ht₁, ht₂⟩ := ht.split
    have hk := ht₂.kind_eq.trans hb
    exact disjunction_continues hl ht₁ (hk ▸ endsConjunction_disjunction)
      (reads_moreDisjuncts_iff.mpr
        (.inl ⟨hk, _, d, conjunction_continues hr ht₂.uncons.2 hd.toEndsTest
          (moreConjuncts_ends hd), he⟩))

/-- What the loop makes of a conjunction that it holds is read from the start of it. -/
theorem conjunction_continues {ts l e c d d'} (h : IsConjunction ts l) (ht : c.Through ts d)
    (hd : EndsTest d.kind) (he : Reads (moreConjuncts l d) e d') :
    Reads (conjunction c) e d' := by
  match h with
  | .one h => exact reads_conjunction_iff.mpr ⟨l, d, test_complete h ht hd, he⟩
  | .more hl ha hr =>
    obtain ⟨c₁, ht₁, ht₂⟩ := ht.split
    have hk := ht₂.kind_eq.trans ha
    exact conjunction_continues hl ht₁ (hk ▸ endsTest_conjunction)
      (reads_moreConjuncts_iff.mpr
        (.inl ⟨hk, _, d, test_complete hr ht₂.uncons.2 hd, he⟩))

/-- A test is read to its end if no comparison follows it. -/
theorem test_complete {ts e c d} (h : IsTest ts e) (ht : c.Through ts d)
    (hd : EndsTest d.kind) : Reads (test c) e d := by
  rw [reads_test_iff]
  match h with
  | .not hn h =>
    exact .not (ht.kind_eq.trans hn)
      (reads_negated_iff.mpr (simple_complete h ht.uncons.2 hd.toEndsSegments))
  | .simple h =>
    have hs := simple_complete h ht hd.toEndsSegments
    -- A group in parentheses is read by a branch of its own, and every other simple test as if it
    -- were negated.
    by_cases hk : c.kind = .openParen
    · cases hs with
      | paren hk he => exact .paren hk he
      | call hf => exact nomatch hf.1.symm.trans hk
      | query ha =>
        cases ha with
        | root hk' => exact nomatch hk'.symm.trans hk
        | current hk' => exact nomatch hk'.symm.trans hk
    · exact .simple hk (reads_negated_iff.mpr hs) hd.comparison
  | .comparison hl ho hr =>
    obtain ⟨c₁, ht₁, ht₂⟩ := ht.split
    have ho' : comparison? c₁.kind = _ := ht₂.kind_eq ▸ ho
    exact .comparison (comparable_complete hl ht₁ (endsSegments_of_comparison ho')) ho'
      (comparable_complete hr ht₂.uncons.2 hd.toEndsSegments)

/-- A simple expression is read to its end. -/
theorem simple_complete {ts e c d} (h : IsSimple ts e) (ht : c.Through ts d)
    (hd : EndsSegments d.kind) : SimpleRead c e d := by
  match h with
  | .paren ho h hc =>
    rw [List.cons_append] at ht
    obtain ⟨c₁, ht₁, ht₂⟩ := ht.uncons.2.split
    have hk := ht₂.kind_eq.trans hc
    have hd' : EndsDisjunction c₁.kind := hk ▸ endsDisjunction_closeParen
    exact .paren (ht.kind_eq.trans ho) (reads_parenthesized_iff.mpr
      ⟨_, c₁, disjunction_continues h ht₁ hd'.toEndsConjunction (moreDisjuncts_ends hd'), hk, rfl,
        ht₂.eq_skip⟩)
  | .call h =>
    obtain ⟨hf, he⟩ := call_complete h ht
    exact .call hf he
  | .query ha h =>
    exact .query (ht.uncons.1 ▸ ha) (segments_complete h ht.uncons.2 hd)

/-- An operand of a comparison is read to its end. -/
theorem comparable_complete {ts e c d} (h : IsComparable ts e) (ht : c.Through ts d)
    (hd : EndsSegments d.kind) : Reads (comparable c) e d := by
  rw [reads_comparable_iff]
  match h with
  | .literal h =>
    obtain ⟨hl, rfl⟩ := literal_complete h ht
    exact .literal hl
  | .call h =>
    obtain ⟨hf, he⟩ := call_complete h ht
    exact .call hf he
  | .query ha h hs =>
    exact .query (ht.uncons.1 ▸ ha) (segments_complete h ht.uncons.2 hd) hs

/-- A call is read whatever follows its parenthesis. -/
theorem call_complete {ts f es} {c d : Cursor} (h : IsCall ts f es) (ht : c.Through ts d) :
    IsFunctionName c.token ∧ Reads (call c.token.text c.skip) (.call f es) d := by
  match h with
  | .none hn ho hc =>
    have ht' := ht.uncons.2
    have ht'' := ht'.uncons.2
    refine ⟨ht.uncons.1 ▸ hn, ?_⟩
    rw [reads_call_iff, ht''.eq_skip, ← ht.uncons.1]
    exact .none (ht'.kind_eq.trans ho) (ht''.kind_eq.trans hc)
  | .some hn ho h hc =>
    have ht' := ht.uncons.2
    refine ⟨ht.uncons.1 ▸ hn, ?_⟩
    rw [reads_call_iff, ← ht.uncons.1]
    obtain ⟨e, es, c₁, rfl, hk, he, hes⟩ := arguments_complete h hc ht'.uncons.2
    exact .some (ht'.kind_eq.trans ho) hk he hes

/-- Arguments are read to the parenthesis behind them. -/
theorem arguments_complete {ts es c d t} (h : IsArguments ts es) (hk : t.kind = .closeParen)
    (ht : c.Through (ts ++ [t]) d) : ∃ e es' c₁, es = e :: es' ∧ c.kind ≠ .closeParen ∧
      Reads (argument c) e c₁ ∧ Reads (moreArguments c₁) es' d := by
  match h with
  | .one h =>
    obtain ⟨c₁, ht₁, ht₂⟩ := ht.split
    have hk' := ht₂.kind_eq.trans hk
    refine ⟨_, [], c₁, rfl, ?_, argument_complete h ht₁ (hk' ▸ endsDisjunction_closeParen), ?_⟩
    · obtain ⟨u, us, rfl, hu⟩ := h.exists_cons
      rw [ht₁.kind_eq]
      exact hu.kind_ne
    · rw [reads_moreArguments_iff, ht₂.eq_skip]
      exact .none hk'
  | .more h hc tail =>
    rw [List.append_assoc, List.cons_append] at ht
    obtain ⟨c₁, ht₁, ht₂⟩ := ht.split
    have hk' := ht₂.kind_eq.trans hc
    obtain ⟨e, es, c₂, rfl, -, he, hes⟩ := arguments_complete tail hk ht₂.uncons.2
    refine ⟨_, _, c₁, rfl, ?_, argument_complete h ht₁ (hk' ▸ endsDisjunction_comma),
      reads_moreArguments_iff.mpr (.more hk' he hes)⟩
    obtain ⟨u, us, rfl, hu⟩ := h.exists_cons
    rw [ht₁.kind_eq]
    exact hu.kind_ne

/-- An argument is read to its end, which a comma or a parenthesis marks. -/
theorem argument_complete {ts e c d} (h : IsArgument ts e) (ht : c.Through ts d)
    (hd : EndsDisjunction d.kind) : Reads (argument c) e d := by
  rw [reads_argument_iff]
  match h with
  | .literal h =>
    obtain ⟨hl, rfl⟩ := literal_complete h ht
    exact .literal hl (reads_compared_iff.mpr (.inl ⟨hd.comparison, rfl, rfl⟩))
  | .comparison hl ho hr =>
    have ho' : comparison? c.skip.kind = _ := ht.uncons.2.kind_eq ▸ ho
    exact .literal (ht.uncons.1 ▸ hl) (reads_compared_iff.mpr (.inr ⟨_, _, ho',
      comparable_complete hr ht.uncons.2.uncons.2 hd.toEndsSegments, rfl⟩))
  | .expr hn h =>
    exact .expr (ht.uncons.1 ▸ hn)
      (disjunction_continues h ht hd.toEndsConjunction (moreDisjuncts_ends hd))

end

end Phrase

end JsonPath.Query
