import JsonPath.Proofs.Reading

/-!
# What is read is a phrase

Whatever a reading function of `Query.Phrase` accepts, the tokens it has passed are a phrase of the
grammar, and the phrase stands for the value that was read. The theorems follow the functions: one
for each of them, used where the function calls the other, and ending for the same reason.

The two loops for `||` and `&&` carry the expression read so far. For them the statement is about
the tokens in front of the loop as well: whatever phrase those are, the loop makes it longer. It is
the same for the lists that end in a bracket or a parenthesis.
-/

namespace JsonPath.Query

open JsonPath.Token Grammar

namespace Phrase

variable {c d : Cursor}

/-! ## Phrases without parts -/

/-- A literal token is not the end of the input. -/
theorem through_skip_of_isLiteral {e : Expr} (h : IsLiteral c.token e) :
    c.Through [c.token] c.skip := by
  cases h with
  | integer hk => exact .skip hk (by decide)
  | float hk => exact .skip hk (by decide)
  | string hk => exact .skip hk (by decide)
  | true hk => exact .skip hk (by decide)
  | false hk => exact .skip hk (by decide)
  | null hk => exact .skip hk (by decide)

theorem through_skip_of_isDotted {s : Selector} (h : IsDotted c.token s) :
    c.Through [c.token] c.skip := by
  cases h with
  | wildcard hk => exact .skip hk (by decide)
  | name hk => exact .skip hk (by decide)

/-- The sign of an embedded query is there to be skipped. -/
theorem size_skip_lt_of_isAnchor {a : Anchor} (h : IsAnchor c.token a) :
    c.skip.size < c.size := by
  cases h with
  | root hk => exact Cursor.size_skip_lt hk (by decide)
  | current hk => exact Cursor.size_skip_lt hk (by decide)

/-- An anchor and the tokens behind it are a stretch of tokens. -/
theorem through_cons_of_isAnchor {a : Anchor} {ts : List Token} (h : IsAnchor c.token a)
    (ht : c.skip.Through ts d) : c.Through (c.token :: ts) d := by
  cases h with
  | root hk => exact .cons hk (by decide) ht
  | current hk => exact .cons hk (by decide) ht

/-- What is read behind a dot is one token that may stand there. -/
theorem dotted_sound {s : Selector} (hr : Reads (dotted c) s d) :
    ∃ t, c.Through [t] d ∧ IsDotted t s := by
  obtain ⟨hs, rfl⟩ := reads_dotted_iff.mp hr
  exact ⟨_, through_skip_of_isDotted hs, hs⟩

/-- What is read as a bound is one, be it missing. -/
theorem bound_sound {b : Option Int64} (hr : Reads (bound c) b d) :
    ∃ ts, c.Through ts d ∧ IsBound ts b := by
  rcases reads_bound_iff.mp hr with ⟨-, rfl, rfl⟩ | ⟨i, hi, rfl, rfl⟩
  · exact ⟨[], .nil _, .absent⟩
  · exact ⟨_, .skip hi.kind (by decide), .present hi⟩

theorem stepBound_sound {b : Option Int64} (hr : Reads (stepBound c) b d) :
    ∃ ts, c.Through ts d ∧ IsStep ts b := by
  rcases reads_stepBound_iff.mp hr with ⟨-, rfl, rfl⟩ | ⟨hk, hb⟩
  · exact ⟨[], .nil _, .absent⟩
  · obtain ⟨ts, ht, hts⟩ := bound_sound hb
    exact ⟨_, .cons hk (by decide) ht, .present hk hts⟩

/-- What is read as an index or a slice is one. -/
theorem indexOrSlice_sound {s : Selector} (hr : Reads (indexOrSlice c) s d) :
    ∃ ts, c.Through ts d ∧ IsSelector ts s := by
  cases reads_indexOrSlice_iff.mp hr with
  | index hi hd =>
    obtain ⟨ts, ht, hts⟩ := bound_sound hi
    cases hts with
    | present hi => exact ⟨_, ht, .index hi⟩
  | slice h₁ hk h₂ h₃ =>
    obtain ⟨ts, ht, hts⟩ := bound_sound h₁
    obtain ⟨us, hu, hus⟩ := bound_sound h₂
    obtain ⟨vs, hv, hvs⟩ := stepBound_sound h₃
    exact ⟨_, ht.trans (.cons hk (by decide) (hu.trans hv)), .slice hts hk hus hvs⟩

/-! ## Phrases with parts -/

mutual

/-- What is read as segments are segments; the theorems that follow say so of each reading function,
by induction on the tokens that are left. -/
theorem segments_sound (c : Cursor) {ss d} (hr : Reads (segments c) ss d) :
    ∃ ts, c.Through ts d ∧ IsSegments ts ss := by
  -- Each case is one way to start a segment. The segments behind it are read from fewer tokens.
  cases reads_segments_iff.mp hr with
  | brackets hk hs hm =>
    have hc := Cursor.size_skip_lt hk (by decide)
    have h₁ := hs.size_le
    obtain ⟨ts, t, ht, hk', hts⟩ := selection_sound c.skip hs
    obtain ⟨us, hu, hus⟩ := segments_sound _ hm
    exact ⟨_, (Cursor.Through.cons hk (by decide) ht).trans hu,
      .cons (.brackets (.mk hk hts hk')) hus⟩
  | dot hk hs hm =>
    have hc := Cursor.size_skip_lt hk (by decide)
    have h₁ := hs.size_le
    obtain ⟨t, ht, hts⟩ := dotted_sound hs
    obtain ⟨us, hu, hus⟩ := segments_sound _ hm
    exact ⟨_, (Cursor.Through.cons hk (by decide) ht).trans hu, .cons (.dot hk hts) hus⟩
  | descendantBrackets hk hk' hs hm =>
    have hc := Cursor.size_skip_lt hk (by decide)
    have hc' := Cursor.size_skip_lt hk' (by decide)
    have h₁ := hs.size_le
    obtain ⟨ts, t, ht, hk'', hts⟩ := selection_sound c.skip.skip hs
    obtain ⟨us, hu, hus⟩ := segments_sound _ hm
    exact ⟨_, (Cursor.Through.cons hk (by decide) (.cons hk' (by decide) ht)).trans hu,
      .cons (.descendantBrackets hk (.mk hk' hts hk'')) hus⟩
  | descendantDot hk hk' hs hm =>
    have hc := Cursor.size_skip_lt hk (by decide)
    have h₁ := hs.size_le
    obtain ⟨t, ht, hts⟩ := dotted_sound hs
    obtain ⟨us, hu, hus⟩ := segments_sound _ hm
    exact ⟨_, (Cursor.Through.cons hk (by decide) ht).trans hu, .cons (.descendantDot hk hts) hus⟩
  | none => exact ⟨[], .nil _, .nil⟩
termination_by 6 * c.size

theorem selection_sound (c : Cursor) {ss d} (hr : Reads (selection c) ss d) :
    ∃ ts t, c.Through (ts ++ [t]) d ∧ t.kind = .closeBracket ∧ IsSelectors ts ss := by
  obtain ⟨s, c₁, more, hs, hm, rfl⟩ := reads_selection_iff.mp hr
  have h₁ := hs.size_le
  obtain ⟨ts, ht, hts⟩ := selector_sound c hs
  obtain ⟨us, t, hu, hk, hus⟩ := moreSelectors_sound c₁ hm hts
  refine ⟨_, t, ?_, hk, hus⟩
  rw [List.append_assoc]
  exact ht.trans hu
termination_by 6 * c.size + 1

/-- What is read behind a selector makes up selectors with it. -/
theorem moreSelectors_sound (c : Cursor) {ss d} (hr : Reads (moreSelectors c) ss d) {ts₀ s₀}
    (h₀ : IsSelector ts₀ s₀) : ∃ ts t, c.Through (ts ++ [t]) d ∧ t.kind = .closeBracket ∧
      IsSelectors (ts₀ ++ ts) (s₀ :: ss) := by
  rcases reads_moreSelectors_iff.mp hr with ⟨hk, hs⟩ | ⟨hk, rfl, rfl⟩
  · have hc := Cursor.size_skip_lt hk (by decide)
    obtain ⟨ts, t, ht, hk', hts⟩ := selection_sound c.skip hs
    exact ⟨_, t, .cons hk (by decide) ht, hk', .more h₀ hk hts⟩
  · refine ⟨[], c.token, .skip hk (by decide), hk, ?_⟩
    rw [List.append_nil]
    exact .one h₀
termination_by 6 * c.size

theorem selector_sound (c : Cursor) {s d} (hr : Reads (selector c) s d) :
    ∃ ts, c.Through ts d ∧ IsSelector ts s := by
  cases reads_selector_iff.mp hr with
  | name hk => exact ⟨_, .skip hk (by decide), .name hk⟩
  | wildcard hk => exact ⟨_, .skip hk (by decide), .wildcard hk⟩
  | indexOrSlice _ hs => exact indexOrSlice_sound hs
  | filter hk he =>
    have hc := Cursor.size_skip_lt hk (by decide)
    obtain ⟨ts, ht, hts⟩ := disjunction_sound c.skip he
    exact ⟨_, .cons hk (by decide) ht, .filter hk hts⟩
termination_by 6 * c.size

theorem disjunction_sound (c : Cursor) {e d} (hr : Reads (disjunction c) e d) :
    ∃ ts, c.Through ts d ∧ IsDisjunction ts e := by
  obtain ⟨l, c₁, hl, he⟩ := reads_disjunction_iff.mp hr
  have h₁ := hl.size_le
  obtain ⟨ts, ht, hts⟩ := conjunction_sound c hl
  obtain ⟨us, hu, hus⟩ := moreDisjuncts_sound c₁ he (.one hts)
  exact ⟨_, ht.trans hu, hus⟩
termination_by 6 * c.size + 3

/-- What is read behind a disjunct makes up a disjunction with it. -/
theorem moreDisjuncts_sound (c : Cursor) {l e d} (hr : Reads (moreDisjuncts l c) e d) {ts₀}
    (h₀ : IsDisjunction ts₀ l) : ∃ ts, c.Through ts d ∧ IsDisjunction (ts₀ ++ ts) e := by
  rcases reads_moreDisjuncts_iff.mp hr with ⟨hk, r, c₁, hright, he⟩ | ⟨-, rfl, rfl⟩
  · have hc := Cursor.size_skip_lt hk (by decide)
    have h₁ := hright.size_le
    obtain ⟨ts, ht, hts⟩ := conjunction_sound c.skip hright
    obtain ⟨us, hu, hus⟩ := moreDisjuncts_sound c₁ he (.more h₀ hk hts)
    refine ⟨_, .cons hk (by decide) (ht.trans hu), ?_⟩
    rwa [List.append_assoc, List.cons_append] at hus
  · refine ⟨[], .nil _, ?_⟩
    rwa [List.append_nil]
termination_by 6 * c.size

theorem conjunction_sound (c : Cursor) {e d} (hr : Reads (conjunction c) e d) :
    ∃ ts, c.Through ts d ∧ IsConjunction ts e := by
  obtain ⟨l, c₁, hl, he⟩ := reads_conjunction_iff.mp hr
  have h₁ := hl.size_le
  obtain ⟨ts, ht, hts⟩ := test_sound c hl
  obtain ⟨us, hu, hus⟩ := moreConjuncts_sound c₁ he (.one hts)
  exact ⟨_, ht.trans hu, hus⟩
termination_by 6 * c.size + 2

/-- What is read behind a conjunct makes up a conjunction with it. -/
theorem moreConjuncts_sound (c : Cursor) {l e d} (hr : Reads (moreConjuncts l c) e d) {ts₀}
    (h₀ : IsConjunction ts₀ l) : ∃ ts, c.Through ts d ∧ IsConjunction (ts₀ ++ ts) e := by
  rcases reads_moreConjuncts_iff.mp hr with ⟨hk, r, c₁, hright, he⟩ | ⟨-, rfl, rfl⟩
  · have hc := Cursor.size_skip_lt hk (by decide)
    have h₁ := hright.size_le
    obtain ⟨ts, ht, hts⟩ := test_sound c.skip hright
    obtain ⟨us, hu, hus⟩ := moreConjuncts_sound c₁ he (.more h₀ hk hts)
    refine ⟨_, .cons hk (by decide) (ht.trans hu), ?_⟩
    rwa [List.append_assoc, List.cons_append] at hus
  · refine ⟨[], .nil _, ?_⟩
    rwa [List.append_nil]
termination_by 6 * c.size

/-- What is read as a test is one. -/
theorem test_sound (c : Cursor) {e d} (hr : Reads (test c) e d) :
    ∃ ts, c.Through ts d ∧ IsTest ts e := by
  cases reads_test_iff.mp hr with
  | not hk he =>
    have hc := Cursor.size_skip_lt hk (by decide)
    obtain ⟨ts, ht, hts⟩ := negated_sound c.skip he
    exact ⟨_, .cons hk (by decide) ht, .not hk hts⟩
  | paren hk he =>
    obtain ⟨ts, ht, hts⟩ := negated_sound c (reads_negated_iff.mpr (.paren hk he))
    exact ⟨_, ht, .simple hts⟩
  | simple _ he _ =>
    obtain ⟨ts, ht, hts⟩ := negated_sound c he
    exact ⟨_, ht, .simple hts⟩
  | comparison hl ho hright =>
    have h₁ := hl.size_le
    have hc := Cursor.size_skip_lt rfl (comparison?_ne_endOfInput ho)
    obtain ⟨ts, ht, hts⟩ := comparable_sound c hl
    obtain ⟨us, hu, hus⟩ := comparable_sound _ hright
    exact ⟨_, ht.trans (.cons rfl (comparison?_ne_endOfInput ho) hu), .comparison hts ho hus⟩
termination_by 6 * c.size + 1

theorem comparable_sound (c : Cursor) {e d} (hr : Reads (comparable c) e d) :
    ∃ ts, c.Through ts d ∧ IsComparable ts e := by
  cases reads_comparable_iff.mp hr with
  | literal he => exact ⟨_, through_skip_of_isLiteral he, .literal he⟩
  | call hf he =>
    have hc := Cursor.size_skip_lt hf.1 (by decide)
    obtain ⟨es, ts, rfl, ht, hts⟩ := call_sound c.skip hf he
    exact ⟨_, .cons hf.1 (by decide) ht, .call hts⟩
  | query ha hs hsing =>
    have hc := size_skip_lt_of_isAnchor ha
    obtain ⟨ts, ht, hts⟩ := segments_sound c.skip hs
    exact ⟨_, through_cons_of_isAnchor ha ht, .query ha hts hsing⟩
termination_by 6 * c.size

/-- What is read behind an exclamation mark is a simple expression. -/
theorem negated_sound (c : Cursor) {e d} (hr : Reads (negated c) e d) :
    ∃ ts, c.Through ts d ∧ IsSimple ts e := by
  cases reads_negated_iff.mp hr with
  | paren hk he =>
    have hc := Cursor.size_skip_lt hk (by decide)
    obtain ⟨e, ts, t, rfl, ht, hts, hk'⟩ := parenthesized_sound c.skip he
    exact ⟨_, .cons hk (by decide) ht, .paren hk hts hk'⟩
  | call hf he =>
    have hc := Cursor.size_skip_lt hf.1 (by decide)
    obtain ⟨es, ts, rfl, ht, hts⟩ := call_sound c.skip hf he
    exact ⟨_, .cons hf.1 (by decide) ht, .call hts⟩
  | query ha hs =>
    have hc := size_skip_lt_of_isAnchor ha
    obtain ⟨ts, ht, hts⟩ := segments_sound c.skip hs
    exact ⟨_, through_cons_of_isAnchor ha ht, .query ha hts⟩
termination_by 6 * c.size

theorem parenthesized_sound (c : Cursor) {e d} (hr : Reads (parenthesized c) e d) :
    ∃ e' ts t, e = .paren e' ∧ c.Through (ts ++ [t]) d ∧ IsDisjunction ts e' ∧
      t.kind = .closeParen := by
  obtain ⟨e', c₁, he, hk, rfl, rfl⟩ := reads_parenthesized_iff.mp hr
  obtain ⟨ts, ht, hts⟩ := disjunction_sound c he
  exact ⟨e', ts, _, rfl, ht.snoc hk (by decide), hts, hk⟩
termination_by 6 * c.size + 4

/-- The arguments of a call in parentheses, behind the name `n` of its function. -/
theorem call_sound (c : Cursor) {n : Token} {e d} (hf : IsFunctionName n)
    (hr : Reads (call n.text c) e d) :
    ∃ es ts, e = .call n.text es ∧ c.Through ts d ∧ IsCall (n :: ts) n.text es := by
  cases reads_call_iff.mp hr with
  | none hk hk' =>
    exact ⟨_, _, rfl, .cons hk (by decide) (.skip hk' (by decide)), .none hf hk hk'⟩
  | some hk hk' he hes =>
    have hc := Cursor.size_skip_lt hk (by decide)
    have h₁ := he.size_le
    obtain ⟨ts, ht, hts⟩ := argument_sound c.skip he
    obtain ⟨us, t, hu, hk'', hus⟩ := moreArguments_sound _ hes hts
    refine ⟨_, _, rfl, .cons hk (by decide) (ht.trans hu), ?_⟩
    rw [← List.append_assoc]
    exact .some hf hk hus hk''
termination_by 6 * c.size

/-- The arguments behind the first one, and the closing parenthesis. -/
theorem moreArguments_sound (c : Cursor) {es d} (hr : Reads (moreArguments c) es d) {ts₀ e₀}
    (h₀ : IsArgument ts₀ e₀) : ∃ ts t, c.Through (ts ++ [t]) d ∧ t.kind = .closeParen ∧
      IsArguments (ts₀ ++ ts) (e₀ :: es) := by
  cases reads_moreArguments_iff.mp hr with
  | more hk he hes =>
    have hc := Cursor.size_skip_lt hk (by decide)
    have h₁ := he.size_le
    obtain ⟨ts, ht, hts⟩ := argument_sound c.skip he
    obtain ⟨us, t, hu, hk', hus⟩ := moreArguments_sound _ hes hts
    refine ⟨c.token :: (ts ++ us), t, ?_, hk', .more h₀ hk hus⟩
    rw [List.cons_append, List.append_assoc]
    exact .cons hk (by decide) (ht.trans hu)
  | none hk =>
    refine ⟨[], c.token, .skip hk (by decide), hk, ?_⟩
    rw [List.append_nil]
    exact .one h₀
termination_by 6 * c.size

theorem argument_sound (c : Cursor) {e d} (hr : Reads (argument c) e d) :
    ∃ ts, c.Through ts d ∧ IsArgument ts e := by
  cases reads_argument_iff.mp hr with
  | literal hl he =>
    have ht := through_skip_of_isLiteral hl
    have hc := he.size_le
    rcases reads_compared_iff.mp he with ⟨-, rfl, rfl⟩ | ⟨op, r, ho, hright, rfl⟩
    · exact ⟨_, ht, .literal hl⟩
    · have hc := Cursor.size_skip_lt rfl (comparison?_ne_endOfInput ho)
      have hc' := c.size_skip_le
      obtain ⟨us, hu, hus⟩ := comparable_sound c.skip.skip hright
      exact ⟨_, ht.trans (.cons rfl (comparison?_ne_endOfInput ho) hu), .comparison hl ho hus⟩
  | expr hn he =>
    obtain ⟨ts, ht, hts⟩ := disjunction_sound c he
    obtain ⟨t, us, rfl, -⟩ := hts.exists_cons
    refine ⟨_, ht, .expr ?_ hts⟩
    rw [← ht.uncons.1]
    exact hn
termination_by 6 * c.size + 4

end

end Phrase

end JsonPath.Query
