import JsonPath.Proofs.Grammar.Canonical
import JsonPath.Proofs.Grammar.Completeness
import JsonPath.Proofs.Regrouping

/-!
# Reading the texts of selectors

The tokens that are written for an index, a slice or a name are read as that again, if they can
be. What is read of a selection or of segments is put together from what is read of the parts.
-/

namespace JsonPath.Query

open JsonPath.Text JsonPath.Token Grammar Phrase

variable {c c' d : Cursor}

/-! ## Single tokens -/

/-- An integer that is written is read as an index if it is in range. -/
theorem isIndex_integerToken_iff {i j : Int64} :
    IsIndex (integerToken i) j ↔ isInRange i = true ∧ j = i := by
  have hi : ofInteger (integerToken i).text.toList = i.toInt := by
    rw [integerToken, String.toList_ofList, ofInteger_integer]
  rw [isInRange, Bool.and_eq_true, decide_eq_true_eq, decide_eq_true_eq]
  refine ⟨?_, ?_⟩
  · intro h
    have hj : j = i := Int64.toInt_inj.mp (h.value.symm.trans hi)
    exact ⟨⟨hj ▸ h.low, hj ▸ h.high⟩, hj⟩
  · rintro ⟨⟨hlow, hhigh⟩, rfl⟩
    exact ⟨rfl, hi, hlow, hhigh⟩

/-- A bound that is written is read if it is in range. -/
theorem reads_bound_of_boundTokens {b b' : Option Int64} (ht : c.Through (boundTokens b) c')
    (hc' : c'.kind ≠ .integer) :
    Reads (bound c) b' d ↔ b.all isInRange = true ∧ b' = b ∧ d = c' := by
  rw [reads_bound_iff]
  cases b with
  | none =>
    obtain rfl := ht.eq_of_nil
    refine ⟨?_, ?_⟩
    · rintro (⟨-, rfl, rfl⟩ | ⟨i, hi, -, -⟩)
      · exact ⟨rfl, rfl, rfl⟩
      · exact absurd hi.kind hc'
    · rintro ⟨-, rfl, rfl⟩
      exact .inl ⟨hc', rfl, rfl⟩
  | some i =>
    rw [ht.uncons.1, ht.eq_skip]
    refine ⟨?_, ?_⟩
    · rintro (⟨hk, -⟩ | ⟨j, hj, rfl, rfl⟩)
      · exact absurd ht.kind_eq hk
      · obtain ⟨hi, rfl⟩ := isIndex_integerToken_iff.mp hj
        exact ⟨hi, rfl, rfl⟩
    · rintro ⟨hi, rfl, rfl⟩
      exact .inr ⟨i, isIndex_integerToken_iff.mpr ⟨hi, rfl⟩, rfl, rfl⟩

/-- A step that is written is read if it is in range. -/
theorem reads_stepBound_of_stepTokens {b b' : Option Int64} (ht : c.Through (stepTokens b) c')
    (hi : c'.kind ≠ .integer) (hc : c'.kind ≠ .colon) :
    Reads (stepBound c) b' d ↔ b.all isInRange = true ∧ b' = b ∧ d = c' := by
  rw [reads_stepBound_iff]
  cases b with
  | none =>
    obtain rfl := ht.eq_of_nil
    refine ⟨?_, ?_⟩
    · rintro (⟨-, rfl, rfl⟩ | ⟨hk, -⟩)
      · exact ⟨rfl, rfl, rfl⟩
      · exact absurd hk hc
    · rintro ⟨-, rfl, rfl⟩
      exact .inl ⟨hc, rfl, rfl⟩
  | some i =>
    have hk : c.kind = .colon := ht.kind_eq
    rw [reads_bound_of_boundTokens (b := some i) ht.uncons.2 hi]
    refine ⟨?_, ?_⟩
    · rintro (⟨hk', -⟩ | ⟨-, h⟩)
      · exact absurd hk hk'
      · exact h
    · exact fun h => .inr ⟨hk, h⟩

/-! ## Selectors and segments -/

/-- A selector in brackets is followed by a comma or by the closing bracket. -/
def EndsSelector (k : Kind) : Prop := k = .comma ∨ k = .closeBracket

theorem EndsSelector.endsDisjunction {k : Kind} (h : EndsSelector k) : EndsDisjunction k := by
  rcases h with rfl | rfl
  · exact endsDisjunction_comma
  · exact endsDisjunction_closeBracket

/-- An index is read if it is in range. -/
theorem reads_selector_of_index {i : Int64} {x : Selector} (ht : c.Through [integerToken i] c')
    (hc' : EndsSelector c'.kind) :
    Reads (selector c) x d ↔ isInRange i = true ∧ x = .index i ∧ d = c' := by
  have hk : c.kind = .integer := ht.kind_eq
  have hb : ∀ b d, Reads (bound c) b d ↔ isInRange i = true ∧ b = some i ∧ d = c' := fun b d =>
    reads_bound_of_boundTokens (b := some i) ht (by rcases hc' with h | h <;> exact h ▸ by decide)
  have hcolon : c'.kind ≠ .colon := by rcases hc' with h | h <;> exact h ▸ by decide
  rw [reads_selector_iff]
  refine ⟨?_, ?_⟩
  · intro hx
    cases hx with
    | name hk' => exact nomatch hk.symm.trans hk'
    | wildcard hk' => exact nomatch hk.symm.trans hk'
    | filter hk' => exact nomatch hk.symm.trans hk'
    | indexOrSlice _ hx =>
      cases reads_indexOrSlice_iff.mp hx with
      | index hi =>
        obtain ⟨hr, hi, rfl⟩ := (hb _ _).mp hi
        exact ⟨hr, congrArg Selector.index (Option.some.inj hi), rfl⟩
      | slice h₁ hk' =>
        obtain ⟨-, -, rfl⟩ := (hb _ _).mp h₁
        exact absurd hk' hcolon
  · rintro ⟨hr, rfl, rfl⟩
    exact .indexOrSlice (.inl hk)
      (reads_indexOrSlice_iff.mpr (.index ((hb _ _).mpr ⟨hr, rfl, rfl⟩) hcolon))

/-- A slice is read if all its bounds are in range. -/
theorem reads_selector_of_slice {s : Slice} {x : Selector} (ht : c.Through s.tokens c')
    (hc' : EndsSelector c'.kind) :
    Reads (selector c) x d ↔ s.isInRange = true ∧ x = .slice s ∧ d = c' := by
  have hinteger : c'.kind ≠ .integer := by rcases hc' with h | h <;> exact h ▸ by decide
  have hcolon : c'.kind ≠ .colon := by rcases hc' with h | h <;> exact h ▸ by decide
  -- The tokens are taken apart into the two bounds and the step, and the colon between the bounds.
  obtain ⟨start, stop, step⟩ := s
  have ht₀ := ht
  obtain ⟨c₁, ht₁, ht⟩ := ht.split
  have hk₁ : c₁.kind = .colon := ht.kind_eq
  obtain ⟨c₂, ht₂, ht₃⟩ := ht.uncons.2.split
  have hk₂ : c₂.kind ≠ .integer := by
    cases step with
    | none => exact ht₃.eq_of_nil ▸ hinteger
    | some i => exact fun h => nomatch h.symm.trans ht₃.kind_eq
  have h₁ : ∀ b d, Reads (bound c) b d ↔ start.all isInRange = true ∧ b = start ∧ d = c₁ :=
    fun b d => reads_bound_of_boundTokens ht₁ (hk₁ ▸ by decide)
  have h₂ : ∀ b d, Reads (bound c₁.skip) b d ↔ stop.all isInRange = true ∧ b = stop ∧ d = c₂ :=
    fun b d => reads_bound_of_boundTokens ht₂ hk₂
  have h₃ : ∀ b d, Reads (stepBound c₂) b d ↔ step.all isInRange = true ∧ b = step ∧ d = c' :=
    fun b d => reads_stepBound_of_stepTokens ht₃ hinteger hcolon
  have hk : c.kind = .integer ∨ c.kind = .colon := by
    cases start with
    | none => exact .inr ht₀.kind_eq
    | some i => exact .inl ht₀.kind_eq
  rw [reads_selector_iff, Slice.isInRange, Bool.and_eq_true, Bool.and_eq_true]
  refine ⟨?_, ?_⟩
  · intro hx
    cases hx with
    | name hk' => rcases hk with hk | hk <;> exact nomatch hk.symm.trans hk'
    | wildcard hk' => rcases hk with hk | hk <;> exact nomatch hk.symm.trans hk'
    | filter hk' => rcases hk with hk | hk <;> exact nomatch hk.symm.trans hk'
    | indexOrSlice _ hx =>
      cases reads_indexOrSlice_iff.mp hx with
      | index hi hd =>
        obtain ⟨-, -, rfl⟩ := (h₁ _ _).mp hi
        exact absurd hk₁ hd
      | slice hstart _ hstop hstep =>
        obtain ⟨hr₁, rfl, rfl⟩ := (h₁ _ _).mp hstart
        obtain ⟨hr₂, rfl, rfl⟩ := (h₂ _ _).mp hstop
        obtain ⟨hr₃, rfl, rfl⟩ := (h₃ _ _).mp hstep
        exact ⟨⟨⟨hr₁, hr₂⟩, hr₃⟩, rfl, rfl⟩
  · rintro ⟨⟨⟨hr₁, hr₂⟩, hr₃⟩, rfl, rfl⟩
    exact .indexOrSlice hk (reads_indexOrSlice_iff.mpr (.slice ((h₁ _ _).mpr ⟨hr₁, rfl, rfl⟩) hk₁
      ((h₂ _ _).mpr ⟨hr₂, rfl, rfl⟩) ((h₃ _ _).mpr ⟨hr₃, rfl, rfl⟩)))

/-- A name in brackets is read as itself. -/
theorem reads_selector_of_literalToken {s : String} {x : Selector}
    (ht : c.Through [literalToken s] c') : Reads (selector c) x d ↔ x = .name s ∧ d = c' := by
  have hk : c.kind = .string := ht.kind_eq
  have hv : Literal.unescape c.token.text = s := by
    rw [ht.uncons.1, literalToken, unescape_literalText]
  rw [reads_selector_iff, ht.eq_skip]
  refine ⟨?_, ?_⟩
  · intro hx
    cases hx with
    | name => exact ⟨congrArg Selector.name hv, rfl⟩
    | wildcard hk' => exact nomatch hk.symm.trans hk'
    | filter hk' => exact nomatch hk.symm.trans hk'
    | indexOrSlice hk' =>
      rcases hk' with hk' | hk' <;> exact nomatch hk.symm.trans hk'
  · rintro ⟨rfl, rfl⟩
    rw [← hv]
    exact .name hk

theorem reads_selector_of_asterisk {x : Selector} (ht : c.Through [sign .asterisk '*'] c') :
    Reads (selector c) x d ↔ x = .wildcard ∧ d = c' := by
  have hk : c.kind = .asterisk := ht.kind_eq
  rw [reads_selector_iff, ht.eq_skip]
  refine ⟨?_, ?_⟩
  · intro hx
    cases hx with
    | name hk' => exact nomatch hk.symm.trans hk'
    | wildcard => exact ⟨rfl, rfl⟩
    | filter hk' => exact nomatch hk.symm.trans hk'
    | indexOrSlice hk' =>
      rcases hk' with hk' | hk' <;> exact nomatch hk.symm.trans hk'
  · rintro ⟨rfl, rfl⟩
    exact .wildcard hk

/-- A filter is read if its expression is. -/
theorem reads_selector_of_questionMark {x : Selector} (hk : c.kind = .questionMark) :
    Reads (selector c) x d ↔ ∃ e, Reads (disjunction c.skip) e d ∧ x = .filter e := by
  rw [reads_selector_iff]
  refine ⟨?_, ?_⟩
  · intro hx
    cases hx with
    | name hk' => exact nomatch hk.symm.trans hk'
    | wildcard hk' => exact nomatch hk.symm.trans hk'
    | filter _ he => exact ⟨_, he, rfl⟩
    | indexOrSlice hk' =>
      rcases hk' with hk' | hk' <;> exact nomatch hk.symm.trans hk'
  · rintro ⟨e, he, rfl⟩
    exact .filter hk he

/-- Selectors are read one after the other: the first up to its end, and the others behind it. -/
theorem reads_selection_of_selector {c₁ : Cursor} {s₀ : Selector} {ss₀ xs : List Selector}
    {ok ok' : Prop}
    (hs : ∀ x d, EndsSelector d.kind → (Reads (selector c) x d ↔ ok ∧ x = s₀ ∧ d = c₁))
    (hss : ∀ xs d, Reads (moreSelectors c₁) xs d ↔ ok' ∧ xs = ss₀ ∧ d = c') :
    Reads (Phrase.selection c) xs d ↔ (ok ∧ ok') ∧ xs = s₀ :: ss₀ ∧ d = c' := by
  have hends : ∀ e xs d, Reads (moreSelectors e) xs d → EndsSelector e.kind := by
    intro e xs d hm
    rcases reads_moreSelectors_iff.mp hm with ⟨hk, -⟩ | ⟨hk, -⟩
    · exact .inl hk
    · exact .inr hk
  rw [reads_selection_iff]
  exact exists_pair_iff hends hs hss

theorem reads_moreSelectors_of_closeBracket {xs : List Selector}
    (ht : c.Through [sign .closeBracket ']'] c') :
    Reads (moreSelectors c) xs d ↔ True ∧ xs = [] ∧ d = c' := by
  have hk : c.kind = .closeBracket := ht.kind_eq
  rw [reads_moreSelectors_iff, ht.eq_skip, true_and]
  refine ⟨?_, ?_⟩
  · rintro (⟨hk', -⟩ | ⟨-, h⟩)
    · exact nomatch hk.symm.trans hk'
    · exact h
  · exact fun h => .inr ⟨hk, h⟩

theorem reads_moreSelectors_of_comma {xs : List Selector} (hk : c.kind = .comma) :
    Reads (moreSelectors c) xs d ↔ Reads (Phrase.selection c.skip) xs d := by
  rw [reads_moreSelectors_iff]
  refine ⟨?_, ?_⟩
  · rintro (⟨-, h⟩ | ⟨hk', -⟩)
    · exact h
    · exact nomatch hk.symm.trans hk'
  · exact fun h => .inl ⟨hk, h⟩

theorem reads_selection_one {ts : List Token} {s₀ : Selector} {xs : List Selector} {ok : Prop}
    (ht : c.Through (ts ++ [sign .closeBracket ']']) c')
    (hs : ∀ c₁, c.Through ts c₁ → EndsSelector c₁.kind → ∀ x d, EndsSelector d.kind →
      (Reads (selector c) x d ↔ ok ∧ x = s₀ ∧ d = c₁)) :
    Reads (Phrase.selection c) xs d ↔ ok ∧ xs = [s₀] ∧ d = c' := by
  obtain ⟨c₁, ht₁, ht₂⟩ := ht.split
  rw [reads_selection_of_selector (hs c₁ ht₁ (.inr ht₂.kind_eq)) fun _ _ =>
    reads_moreSelectors_of_closeBracket ht₂, and_true]

theorem reads_selection_cons {ts us : List Token} {s₀ : Selector} {ss₀ xs : List Selector}
    {ok ok' : Prop} (ht : c.Through (ts ++ sign .comma ',' :: us) c')
    (hs : ∀ c₁, c.Through ts c₁ → EndsSelector c₁.kind → ∀ x d, EndsSelector d.kind →
      (Reads (selector c) x d ↔ ok ∧ x = s₀ ∧ d = c₁))
    (hss : ∀ c₁ : Cursor, c₁.Through us c' → ∀ xs d,
      (Reads (Phrase.selection c₁) xs d ↔ ok' ∧ xs = ss₀ ∧ d = c')) :
    Reads (Phrase.selection c) xs d ↔ (ok ∧ ok') ∧ xs = s₀ :: ss₀ ∧ d = c' := by
  obtain ⟨c₁, ht₁, ht₂⟩ := ht.split
  have hk : c₁.kind = .comma := ht₂.kind_eq
  refine reads_selection_of_selector (hs c₁ ht₁ (.inl hk)) fun xs d => ?_
  rw [reads_moreSelectors_of_comma hk, hss _ ht₂.uncons.2]

/-- Segments are read one after the other. -/
theorem reads_segments_of_bracketed {reach : Reach} {c₁ : Cursor} {ts : List Token}
    {ss₀ : List Selector} {more₀ xs : List Segment} {ok ok' : Prop}
    (ht : c.Through (reach.tokens ++ bracketed ts) c₁)
    (hs : ∀ c₀ : Cursor, c₀.Through (ts ++ [sign .closeBracket ']']) c₁ → ∀ xs d,
      (Reads (Phrase.selection c₀) xs d ↔ ok ∧ xs = ss₀ ∧ d = c₁))
    (hm : ∀ xs d, Reads (Phrase.segments c₁) xs d ↔ ok' ∧ xs = more₀ ∧ d = c') :
    Reads (Phrase.segments c) xs d ↔ (ok ∧ ok') ∧ xs = .brackets reach ss₀ :: more₀ ∧ d = c' := by
  cases reach with
  | children =>
    rw [reads_segments_of_openBracket ht.kind_eq]
    exact exists_pair_iff (fun _ _ _ _ => trivial) (fun xs e _ => hs _ ht.uncons.2 xs e) hm
  | descendants =>
    have ht' := ht.uncons.2
    rw [reads_segments_of_dotDot_bracket ht.kind_eq ht'.kind_eq]
    exact exists_pair_iff (fun _ _ _ _ => trivial) (fun xs e _ => hs _ ht'.uncons.2 xs e) hm

/-- What stands behind a dot is one selector only. -/
theorem Grammar.IsDotted.unique {t : Token} {s s' : Selector} (h : IsDotted t s) (h' : IsDotted t s') :
    s = s' := by
  cases h with
  | wildcard hk =>
    cases h' with
    | wildcard => rfl
    | name hk' => exact nomatch hk.symm.trans hk'
  | name hk =>
    cases h' with
    | wildcard hk' => exact nomatch hk.symm.trans hk'
    | name => rfl

/-- A segment with a dot is read, and then the others. -/
theorem reads_segments_of_dotted {reach : Reach} {c₁ : Cursor} {t : Token} {s₀ : Selector}
    {more₀ xs : List Segment} {ok : Prop} (ht : c.Through [reach.dotToken, t] c₁)
    (hs : IsDotted t s₀) (hm : ∀ xs d, Reads (Phrase.segments c₁) xs d ↔ ok ∧ xs = more₀ ∧ d = c') :
    Reads (Phrase.segments c) xs d ↔ ok ∧ xs = .dot reach s₀ :: more₀ ∧ d = c' := by
  have hdot : ∀ x d, True → (Reads (dotted c.skip) x d ↔ True ∧ x = s₀ ∧ d = c₁) := by
    intro x d _
    rw [reads_dotted_iff, ht.uncons.2.uncons.1, ht.uncons.2.eq_skip, true_and]
    exact and_congr_left' ⟨fun h => h.unique hs, fun h => h ▸ hs⟩
  have hpair {reach : Reach} := exists_pair_iff (k := fun s more => Segment.dot reach s :: more)
    (fun _ _ _ _ => trivial) hdot hm (z := xs) (d := d)
  rw [true_and] at hpair
  cases reach with
  | children =>
    rw [reads_segments_of_dot ht.kind_eq]
    exact hpair
  | descendants =>
    have hk : c.skip.kind ≠ .openBracket := by
      rw [ht.uncons.2.kind_eq]
      cases hs with
      | wildcard hk => exact hk ▸ by decide
      | name hk => exact hk ▸ by decide
    rw [reads_segments_of_dotDot_dotted ht.kind_eq hk]
    exact hpair

end JsonPath.Query
