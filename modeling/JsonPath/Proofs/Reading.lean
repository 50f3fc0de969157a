import JsonPath.Proofs.Reading.Program

/-!
# How phrases are read

For each reading function of `Query.Phrase`, what has to be read for it to read something: a
function succeeds exactly as one of the rules says, and each rule says which token it looks at,
what it reads next, and where that ends. A function with several rules has them as constructors
of a relation (`SegmentsRead`, `TestRead`, ...), any other a plain equivalence. Everything else
about successful reading is proved from these rules.

A rule is found by running the program for the function (`Proofs.Reading.Program`) step by step:
each step says what it takes for it to succeed, and where the next one starts.
-/

namespace JsonPath.Query

open JsonPath.Token Grammar

/-- A name that is no word for a literal is one that a function can have. -/
theorem Grammar.isFunctionName_iff {t : Token} (hk : t.kind = .name) :
    IsFunctionName t ↔ ¬ IsKeyword t := by
  simp [IsKeyword, IsFunctionName, hk]

namespace Phrase

open Reader

variable {c d : Cursor}

/-! ## Phrases without parts -/

theorem reads_expect_iff {k : Kind} : Reads (expect c k) () d ↔ c.kind = k ∧ d = c.skip := by
  rw [← reading_eq_ok_iff (f := (expect · k)), reading_expect, Program.expect, run_kind c rfl]
  split
  · next hk => simp only [skip_eq_ok_iff, hk, true_and]
  · next hk => simp only [unexpected_ne_ok, hk, false_and]

/-- An integer literal denotes the integer that is written, if that has 64 bits. -/
theorem integer?_eq_some_iff {text : String} {i : Int64} :
    Literal.integer? text = some i ↔ Text.ofInteger text.toList = i.toInt := by
  unfold Literal.integer?
  dsimp only
  refine ⟨?_, ?_⟩
  · intro h
    split at h
    · next hrange =>
      cases h
      exact (Int64.toInt_ofInt_of_le hrange.1 hrange.2).symm
    · cases h
  · intro h
    rw [h, if_pos ⟨i.le_toInt, i.toInt_lt⟩, Int64.ofInt_toInt]

/-- A token is a literal if it looks like one and denotes something. -/
theorem isLiteral_iff {t : Token} {e : Expr} :
    IsLiteral t e ↔ LooksLiteral t ∧ literalOf? t = some e := by
  refine ⟨?_, ?_⟩
  · intro h
    cases h with
    | integer hk hv => exact ⟨.inl hk, by simp [literalOf?, hk, integer?_eq_some_iff.mpr hv]⟩
    | float hk hv => exact ⟨.inr (.inl hk), by simp [literalOf?, hk, hv]⟩
    | string hk => exact ⟨.inr (.inr (.inl hk)), by simp [literalOf?, hk]⟩
    | true hk ht =>
      exact ⟨.inr (.inr (.inr ⟨hk, by simp [isKeyword, ht]⟩)), by simp [literalOf?, hk, ht]⟩
    | false hk ht =>
      exact ⟨.inr (.inr (.inr ⟨hk, by simp [isKeyword, ht]⟩)), by simp [literalOf?, hk, ht]⟩
    | null hk ht =>
      exact ⟨.inr (.inr (.inr ⟨hk, by simp [isKeyword, ht]⟩)), by simp [literalOf?, hk, ht]⟩
  -- The kind tells integers, decimals and strings; a name has to be one of the three keywords.
  · rintro ⟨hk | hk | hk | ⟨hk, hw⟩, hv⟩
    · simp only [literalOf?, hk, Option.map_eq_some_iff] at hv
      obtain ⟨i, hi, rfl⟩ := hv
      exact .integer hk (integer?_eq_some_iff.mp hi)
    · simp only [literalOf?, hk, Option.map_eq_some_iff] at hv
      obtain ⟨x, hx, rfl⟩ := hv
      exact .float hk hx
    · simp only [literalOf?, hk, Option.some.injEq] at hv
      subst hv
      exact .string hk
    · simp only [isKeyword, Bool.or_eq_true, beq_iff_eq] at hw
      rcases hw with (ht | ht) | ht
      · simp [literalOf?, hk, ht] at hv
        subst hv
        exact .true hk ht
      · simp [literalOf?, hk, ht] at hv
        subst hv
        exact .false hk ht
      · simp [literalOf?, hk, ht] at hv
        subst hv
        exact .null hk ht

/-- A literal is read where a token denotes one. -/
theorem reads_literal_iff {e : Expr} :
    Reads (literal c) e d ↔ IsLiteral c.token e ∧ d = c.skip := by
  rw [isLiteral_iff, ← reading_eq_ok_iff, reading_literal, Program.literal, run_next]
  split
  · next hl =>
    cases literalOf? c.token with
    | none => simp only [fail_ne_ok, reduceCtorEq, and_false, false_and]
    | some e' =>
      simp only [run_skip, pure_eq_ok_iff, hl, true_and, Option.some.injEq, @eq_comm _ e']
  · next hl => simp only [unexpected_ne_ok, hl, false_and]

/-- Behind a dot, a name or an asterisk is read. -/
theorem reads_dotted_iff {s : Selector} :
    Reads (dotted c) s d ↔ IsDotted c.token s ∧ d = c.skip := by
  rw [← reading_eq_ok_iff, reading_dotted, Program.dotted, run_next]
  refine ⟨?_, ?_⟩
  · cases hk : c.token.kind with
    | asterisk =>
      intro h
      obtain ⟨rfl, rfl⟩ := pure_eq_ok_iff.mp h
      exact ⟨.wildcard hk, rfl⟩
    | name =>
      intro h
      obtain ⟨rfl, rfl⟩ := pure_eq_ok_iff.mp h
      exact ⟨.name hk, rfl⟩
    | _ => exact fun h => absurd h unexpected_ne_ok
  · rintro ⟨hs, rfl⟩
    cases hs with
    | wildcard hk => simp only [hk, run_skip, pure_eq_ok_iff, and_self]
    | name hk => simp only [hk, run_skip, pure_eq_ok_iff, and_self]

/-- A bound is missing where there is no integer; an integer that is there must be an index. -/
theorem reads_bound_iff {b : Option Int64} :
    Reads (bound c) b d ↔ (c.kind ≠ .integer ∧ b = none ∧ d = c) ∨
      ∃ i, IsIndex c.token i ∧ b = some i ∧ d = c.skip := by
  rw [← reading_eq_ok_iff, reading_bound, Program.bound, run_next]
  refine ⟨?_, ?_⟩
  · split
    · next hk =>
      cases hi : Literal.integer? c.token.text with
      | none => exact fun h => absurd h fail_ne_ok
      | some i =>
        dsimp only
        split
        · next hrange =>
          intro h
          obtain ⟨rfl, rfl⟩ := pure_eq_ok_iff.mp h
          exact .inr ⟨i, ⟨hk, integer?_eq_some_iff.mp hi, hrange.1, hrange.2⟩, rfl, rfl⟩
        · exact fun h => absurd h fail_ne_ok
    · next hk => exact fun h => .inl ⟨hk, pure_eq_ok_iff.mp h⟩
  · rintro (⟨hk, h⟩ | ⟨i, hi, h⟩)
    · have hk' : c.token.kind ≠ .integer := hk
      rw [if_neg hk']
      exact pure_eq_ok_iff.mpr h
    · simp only [hi.kind, integer?_eq_some_iff.mpr hi.value, hi.low, hi.high, and_self, if_true]
      exact pure_eq_ok_iff.mpr h

/-- The step of a slice is missing without a colon, and behind one it is a bound. -/
theorem reads_stepBound_iff {b : Option Int64} :
    Reads (stepBound c) b d ↔ (c.kind ≠ .colon ∧ b = none ∧ d = c) ∨
      (c.kind = .colon ∧ Reads (bound c.skip) b d) := by
  rw [← reading_eq_ok_iff, reading_stepBound, Program.stepBound, run_kind c rfl]
  split
  · next hk =>
    simp only [run_skip, reading_eq_ok_iff, hk, ne_eq, not_true_eq_false, false_and, false_or,
      true_and]
  · next hk =>
    simp only [pure_eq_ok_iff, hk, ne_eq, not_false_eq_true, true_and, false_and, or_false]

/-- How an index or a slice is read. -/
inductive IndexOrSliceRead (c : Cursor) : Selector → Cursor → Prop
  | index {i d} (hi : Reads (bound c) (some i) d) (hd : d.kind ≠ .colon) :
      IndexOrSliceRead c (.index i) d
  | slice {start c₁ stop c₂ step d} (h₁ : Reads (bound c) start c₁) (hk : c₁.kind = .colon)
      (h₂ : Reads (bound c₁.skip) stop c₂) (h₃ : Reads (stepBound c₂) step d) :
      IndexOrSliceRead c (.slice ⟨start, stop, step⟩) d

/-- An index or a slice is read as `IndexOrSliceRead` says. -/
theorem reads_indexOrSlice_iff {s : Selector} :
    Reads (indexOrSlice c) s d ↔ IndexOrSliceRead c s d := by
  rw [← reading_eq_ok_iff, reading_indexOrSlice, Program.indexOrSlice, bind_eq_ok_iff]
  refine ⟨?_, fun h => ?_⟩
  · rintro ⟨start, c₁, hstart, h⟩
    rw [reading_eq_ok_iff] at hstart
    rw [run_kind c₁ rfl] at h
    split at h
    · next hk =>
      simp only [run_skip, bind_eq_ok_iff, reading_eq_ok_iff, pure_eq_ok_iff] at h
      obtain ⟨stop, c₂, hstop, step, c₃, hstep, rfl, rfl⟩ := h
      exact .slice hstart hk hstop hstep
    · next hk =>
      cases start with
      | none => exact absurd h unexpected_ne_ok
      | some i =>
        obtain ⟨rfl, rfl⟩ := pure_eq_ok_iff.mp h
        exact .index hstart hk
  · cases h with
    | index hi hd =>
      refine ⟨_, _, reading_eq_ok_iff.mpr hi, ?_⟩
      rw [run_kind _ rfl, if_neg hd]
      exact pure_eq_ok_iff.mpr ⟨rfl, rfl⟩
    | slice h₁ hk h₂ h₃ =>
      refine ⟨_, _, reading_eq_ok_iff.mpr h₁, ?_⟩
      rw [run_kind _ hk, if_pos rfl]
      simp only [run_skip, bind_eq_ok_iff, reading_eq_ok_iff, pure_eq_ok_iff]
      exact ⟨_, _, h₂, _, _, h₃, rfl, rfl⟩

/-! ## Segments and selectors -/

theorem run_pair_eq_ok_iff {α β γ : Type} {f : (c : Cursor) → Outcome α c}
    {g : (c : Cursor) → Outcome β c} {k : α → β → γ} {z : γ} :
    (do let x ← reading f; let y ← reading g; return k x y : Reader γ) c = .ok (z, d) ↔
      ∃ x c₁ y, Reads (f c) x c₁ ∧ Reads (g c₁) y d ∧ z = k x y := by
  simp only [bind_eq_ok_iff, reading_eq_ok_iff, pure_eq_ok_iff]
  refine ⟨?_, ?_⟩
  · rintro ⟨x, c₁, hx, y, c₂, hy, rfl, rfl⟩
    exact ⟨x, c₁, y, hx, hy, rfl⟩
  · rintro ⟨x, c₁, y, hx, hy, rfl⟩
    exact ⟨x, c₁, hx, y, d, hy, rfl, rfl⟩

/-- Two phrases, one behind the other, when it is known what is read for each of them; for the first,
this need only be known up to where the second can start. -/
theorem exists_pair_iff {α β γ : Type} {f : (c : Cursor) → Outcome α c}
    {g : (c : Cursor) → Outcome β c} {k : α → β → γ} {c₁ c' : Cursor} {x₀ : α} {y₀ : β} {z : γ}
    {ok ok' : Prop} {Starts : Cursor → Prop} (hstarts : ∀ e y d, Reads (g e) y d → Starts e)
    (hx : ∀ x e, Starts e → (Reads (f c) x e ↔ ok ∧ x = x₀ ∧ e = c₁))
    (hy : ∀ y d, Reads (g c₁) y d ↔ ok' ∧ y = y₀ ∧ d = c') :
    (∃ x e y, Reads (f c) x e ∧ Reads (g e) y d ∧ z = k x y) ↔
      (ok ∧ ok') ∧ z = k x₀ y₀ ∧ d = c' := by
  refine ⟨?_, ?_⟩
  · rintro ⟨x, e, y, hxe, hye, rfl⟩
    obtain ⟨hok, rfl, rfl⟩ := (hx x e (hstarts e y d hye)).mp hxe
    obtain ⟨hok', rfl, rfl⟩ := (hy y d).mp hye
    exact ⟨⟨hok, hok'⟩, rfl, rfl⟩
  · rintro ⟨⟨hok, hok'⟩, rfl, rfl⟩
    have hye := (hy y₀ d).mpr ⟨hok', rfl, rfl⟩
    exact ⟨x₀, c₁, y₀, (hx x₀ c₁ (hstarts c₁ y₀ d hye)).mpr ⟨hok, rfl, rfl⟩, hye, rfl⟩

section

variable {ss : List Segment}

/-- A bracket opens a selection among the children. -/
theorem reads_segments_of_openBracket (hk : c.kind = .openBracket) :
    Reads (segments c) ss d ↔ ∃ xs c₁ more, Reads (selection c.skip) xs c₁ ∧
      Reads (segments c₁) more d ∧ ss = .brackets .children xs :: more := by
  rw [← reading_eq_ok_iff, reading_segments, Program.segments, run_kind c hk]
  dsimp only
  rw [run_skip]
  exact run_pair_eq_ok_iff

/-- A dot is followed by a selector of children. -/
theorem reads_segments_of_dot (hk : c.kind = .dot) :
    Reads (segments c) ss d ↔ ∃ x c₁ more, Reads (dotted c.skip) x c₁ ∧
      Reads (segments c₁) more d ∧ ss = .dot .children x :: more := by
  rw [← reading_eq_ok_iff, reading_segments, Program.segments, run_kind c hk]
  dsimp only
  rw [run_skip]
  exact run_pair_eq_ok_iff

/-- Two dots and a bracket open a selection among the descendants. -/
theorem reads_segments_of_dotDot_bracket (hk : c.kind = .dotDot)
    (hk' : c.skip.kind = .openBracket) :
    Reads (segments c) ss d ↔ ∃ xs c₁ more, Reads (selection c.skip.skip) xs c₁ ∧
      Reads (segments c₁) more d ∧ ss = .brackets .descendants xs :: more := by
  rw [← reading_eq_ok_iff, reading_segments, Program.segments, run_kind c hk]
  dsimp only
  rw [run_skip, run_kind c.skip hk', if_pos rfl, run_skip]
  exact run_pair_eq_ok_iff

/-- Two dots without a bracket are followed by a selector of descendants. -/
theorem reads_segments_of_dotDot_dotted (hk : c.kind = .dotDot)
    (hk' : c.skip.kind ≠ .openBracket) :
    Reads (segments c) ss d ↔ ∃ x c₁ more, Reads (dotted c.skip) x c₁ ∧
      Reads (segments c₁) more d ∧ ss = .dot .descendants x :: more := by
  rw [← reading_eq_ok_iff, reading_segments, Program.segments, run_kind c hk]
  dsimp only
  rw [run_skip, run_kind c.skip rfl, if_neg hk']
  exact run_pair_eq_ok_iff

/-- Any other token is the end of the segments. -/
theorem reads_segments_of_other (h₁ : c.kind ≠ .openBracket) (h₂ : c.kind ≠ .dot)
    (h₃ : c.kind ≠ .dotDot) : Reads (segments c) ss d ↔ ss = [] ∧ d = c := by
  rw [← reading_eq_ok_iff, reading_segments, Program.segments, run_kind c rfl]
  generalize c.kind = k at h₁ h₂ h₃
  cases k <;> first | exact pure_eq_ok_iff | contradiction

end

/-- How segments are read. -/
inductive SegmentsRead (c : Cursor) : List Segment → Cursor → Prop
  | brackets {ss c₁ more d} (hk : c.kind = .openBracket) (hs : Reads (selection c.skip) ss c₁)
      (hm : Reads (segments c₁) more d) : SegmentsRead c (.brackets .children ss :: more) d
  | dot {s c₁ more d} (hk : c.kind = .dot) (hs : Reads (dotted c.skip) s c₁)
      (hm : Reads (segments c₁) more d) : SegmentsRead c (.dot .children s :: more) d
  | descendantBrackets {ss c₁ more d} (hk : c.kind = .dotDot) (hk' : c.skip.kind = .openBracket)
      (hs : Reads (selection c.skip.skip) ss c₁) (hm : Reads (segments c₁) more d) :
      SegmentsRead c (.brackets .descendants ss :: more) d
  | descendantDot {s c₁ more d} (hk : c.kind = .dotDot) (hk' : c.skip.kind ≠ .openBracket)
      (hs : Reads (dotted c.skip) s c₁) (hm : Reads (segments c₁) more d) :
      SegmentsRead c (.dot .descendants s :: more) d
  | none (h₁ : c.kind ≠ .openBracket) (h₂ : c.kind ≠ .dot) (h₃ : c.kind ≠ .dotDot) :
      SegmentsRead c [] c

/-- Segments are read as `SegmentsRead` says. -/
theorem reads_segments_iff {ss : List Segment} :
    Reads (segments c) ss d ↔ SegmentsRead c ss d := by
  refine ⟨?_, fun h => ?_⟩
  · by_cases h₁ : c.kind = .openBracket
    · rw [reads_segments_of_openBracket h₁]
      rintro ⟨xs, c₁, more, hxs, hmore, rfl⟩
      exact .brackets h₁ hxs hmore
    by_cases h₂ : c.kind = .dot
    · rw [reads_segments_of_dot h₂]
      rintro ⟨x, c₁, more, hx, hmore, rfl⟩
      exact .dot h₂ hx hmore
    by_cases h₃ : c.kind = .dotDot
    · by_cases h₄ : c.skip.kind = .openBracket
      · rw [reads_segments_of_dotDot_bracket h₃ h₄]
        rintro ⟨xs, c₁, more, hxs, hmore, rfl⟩
        exact .descendantBrackets h₃ h₄ hxs hmore
      · rw [reads_segments_of_dotDot_dotted h₃ h₄]
        rintro ⟨x, c₁, more, hx, hmore, rfl⟩
        exact .descendantDot h₃ h₄ hx hmore
    · rw [reads_segments_of_other h₁ h₂ h₃]
      rintro ⟨rfl, rfl⟩
      exact .none h₁ h₂ h₃
  · cases h with
    | brackets hk hs hm => exact (reads_segments_of_openBracket hk).mpr ⟨_, _, _, hs, hm, rfl⟩
    | dot hk hs hm => exact (reads_segments_of_dot hk).mpr ⟨_, _, _, hs, hm, rfl⟩
    | descendantBrackets hk hk' hs hm =>
      exact (reads_segments_of_dotDot_bracket hk hk').mpr ⟨_, _, _, hs, hm, rfl⟩
    | descendantDot hk hk' hs hm =>
      exact (reads_segments_of_dotDot_dotted hk hk').mpr ⟨_, _, _, hs, hm, rfl⟩
    | none h₁ h₂ h₃ => exact (reads_segments_of_other h₁ h₂ h₃).mpr ⟨rfl, rfl⟩

/-- A selection is a selector and what follows it. -/
theorem reads_selection_iff {ss : List Selector} :
    Reads (selection c) ss d ↔ ∃ s c₁ more, Reads (selector c) s c₁ ∧
      Reads (moreSelectors c₁) more d ∧ ss = s :: more := by
  rw [← reading_eq_ok_iff, reading_selection, Program.selection]
  exact run_pair_eq_ok_iff

theorem reads_moreSelectors_iff {ss : List Selector} :
    Reads (moreSelectors c) ss d ↔ (c.kind = .comma ∧ Reads (selection c.skip) ss d) ∨
      (c.kind = .closeBracket ∧ ss = [] ∧ d = c.skip) := by
  rw [← reading_eq_ok_iff, reading_moreSelectors, Program.moreSelectors, run_kind c rfl]
  cases c.kind with
  | comma =>
    -- a selection is read behind the comma, and that is what its program does
    simp only [run_skip, reduceCtorEq, true_and, false_and, or_false]
    rw [← reading_eq_ok_iff, reading_selection, Program.selection]
  | closeBracket =>
    simp only [run_skip, pure_eq_ok_iff, reduceCtorEq, true_and, false_and, false_or]
  | _ => simp only [unexpected_ne_ok, reduceCtorEq, false_and, or_false]

/-- How a selector is read. -/
inductive SelectorRead (c : Cursor) : Selector → Cursor → Prop
  | name (hk : c.kind = .string) :
      SelectorRead c (.name (Literal.unescape c.token.text)) c.skip
  | wildcard (hk : c.kind = .asterisk) : SelectorRead c .wildcard c.skip
  | indexOrSlice {s d} (hk : c.kind = .integer ∨ c.kind = .colon)
      (hs : Reads (indexOrSlice c) s d) : SelectorRead c s d
  | filter {e d} (hk : c.kind = .questionMark) (he : Reads (disjunction c.skip) e d) :
      SelectorRead c (.filter e) d

/-- A selector is read as `SelectorRead` says. -/
theorem reads_selector_iff {s : Selector} : Reads (selector c) s d ↔ SelectorRead c s d := by
  rw [← reading_eq_ok_iff, reading_selector, Program.selector, run_kind c rfl]
  refine ⟨?_, fun h => ?_⟩
  · cases hk : c.kind with
    | string =>
      intro h
      obtain ⟨rfl, rfl⟩ := pure_eq_ok_iff.mp h
      exact .name hk
    | asterisk =>
      intro h
      obtain ⟨rfl, rfl⟩ := pure_eq_ok_iff.mp h
      exact .wildcard hk
    | integer => exact fun h => .indexOrSlice (.inl hk) (reading_eq_ok_iff.mp h)
    | colon => exact fun h => .indexOrSlice (.inr hk) (reading_eq_ok_iff.mp h)
    | questionMark =>
      intro h
      simp only [run_skip, bind_eq_ok_iff, reading_eq_ok_iff, pure_eq_ok_iff] at h
      obtain ⟨e, c₁, he, rfl, rfl⟩ := h
      exact .filter hk he
    | _ => exact fun h => absurd h unexpected_ne_ok
  · cases h with
    | name hk =>
      simp only [hk, run_next, run_skip, pure_eq_ok_iff, and_self]
    | wildcard hk => simp only [hk, run_skip, pure_eq_ok_iff, and_self]
    | indexOrSlice hk hs =>
      rcases hk with hk | hk <;> simpa only [hk, reading_eq_ok_iff] using hs
    | filter hk he =>
      simp only [hk, run_skip, bind_eq_ok_iff, reading_eq_ok_iff, pure_eq_ok_iff]
      exact ⟨_, _, he, rfl, rfl⟩

/-! ## Expressions -/

/-- A disjunction is a conjunction and what may be added to it. -/
theorem reads_disjunction_iff {e : Expr} :
    Reads (disjunction c) e d ↔ ∃ l c₁, Reads (conjunction c) l c₁ ∧
      Reads (moreDisjuncts l c₁) e d := by
  rw [← reading_eq_ok_iff, reading_disjunction, Program.disjunction]
  simp only [bind_eq_ok_iff, reading_eq_ok_iff]

/-- What is added behind `||` is joined to what stands on the left. -/
theorem reads_moreDisjuncts_iff {l e : Expr} :
    Reads (moreDisjuncts l c) e d ↔
      (c.kind = .disjunction ∧ ∃ r c₁, Reads (conjunction c.skip) r c₁ ∧
        Reads (moreDisjuncts (.binary .or l r) c₁) e d) ∨
      (c.kind ≠ .disjunction ∧ e = l ∧ d = c) := by
  rw [← reading_eq_ok_iff, reading_moreDisjuncts, Program.moreDisjuncts, run_kind c rfl]
  split
  · next hk =>
    simp only [run_skip, bind_eq_ok_iff, reading_eq_ok_iff, hk, ne_eq, not_true_eq_false, true_and,
      false_and, or_false]
  · next hk =>
    simp only [pure_eq_ok_iff, hk, ne_eq, not_false_eq_true, true_and, false_and, false_or]

/-- A conjunction is a test and what may be added to it. -/
theorem reads_conjunction_iff {e : Expr} :
    Reads (conjunction c) e d ↔ ∃ l c₁, Reads (test c) l c₁ ∧ Reads (moreConjuncts l c₁) e d := by
  rw [← reading_eq_ok_iff, reading_conjunction, Program.conjunction]
  simp only [bind_eq_ok_iff, reading_eq_ok_iff]

/-- What is added behind `&&` is joined to what stands on the left. -/
theorem reads_moreConjuncts_iff {l e : Expr} :
    Reads (moreConjuncts l c) e d ↔
      (c.kind = .conjunction ∧ ∃ r c₁, Reads (test c.skip) r c₁ ∧
        Reads (moreConjuncts (.binary .and l r) c₁) e d) ∨
      (c.kind ≠ .conjunction ∧ e = l ∧ d = c) := by
  rw [← reading_eq_ok_iff, reading_moreConjuncts, Program.moreConjuncts, run_kind c rfl]
  split
  · next hk =>
    simp only [run_skip, bind_eq_ok_iff, reading_eq_ok_iff, hk, ne_eq, not_true_eq_false, true_and,
      false_and, or_false]
  · next hk =>
    simp only [pure_eq_ok_iff, hk, ne_eq, not_false_eq_true, true_and, false_and, false_or]

/-- Between parentheses stands a disjunction, which is kept as a group. -/
theorem reads_parenthesized_iff {e : Expr} :
    Reads (parenthesized c) e d ↔ ∃ e' c₁, Reads (disjunction c) e' c₁ ∧
      c₁.kind = .closeParen ∧ e = .paren e' ∧ d = c₁.skip := by
  rw [← reading_eq_ok_iff, reading_parenthesized, Program.parenthesized]
  simp only [bind_eq_ok_iff, reading_eq_ok_iff, pure_eq_ok_iff]
  refine ⟨?_, ?_⟩
  · rintro ⟨e', c₁, he, _, c₂, hclose, rfl, rfl⟩
    obtain ⟨hk, rfl⟩ := reads_expect_iff.mp hclose
    exact ⟨e', c₁, he, hk, rfl, rfl⟩
  · rintro ⟨e', c₁, he, hk, rfl, rfl⟩
    exact ⟨e', c₁, he, (), c₁.skip, reads_expect_iff.mpr ⟨hk, rfl⟩, rfl, rfl⟩

/-- An embedded query is an operand if all its segments are singular, and no token is passed over
for that. -/
theorem run_operand_eq_ok_iff {a : Anchor} {ss : List Segment} {e : Expr} :
    Program.operand a ss c = .ok (e, d) ↔
      ss.all Segment.isSingular = true ∧ e = .single a ss ∧ d = c := by
  rw [Program.operand, operand]
  split
  · next hs => simp only [Except.map, Except.ok.injEq, Prod.mk.injEq, hs, true_and, eq_comm]
  · next hs => simp only [Except.map, reduceCtorEq, hs, Bool.false_eq_true, false_and]

/-- How an operand of a comparison is read. -/
inductive ComparableRead (c : Cursor) : Expr → Cursor → Prop
  | literal {e} (he : IsLiteral c.token e) : ComparableRead c e c.skip
  | call {e d} (hf : IsFunctionName c.token) (he : Reads (call c.token.text c.skip) e d) :
      ComparableRead c e d
  | query {a ss d} (ha : IsAnchor c.token a) (hs : Reads (segments c.skip) ss d)
      (hsing : ss.all Segment.isSingular = true) : ComparableRead c (.single a ss) d

/-- An operand of a comparison is read as `ComparableRead` says. -/
theorem reads_comparable_iff {e : Expr} : Reads (comparable c) e d ↔ ComparableRead c e d := by
  rw [← reading_eq_ok_iff, reading_comparable, Program.comparable, run_kind c rfl]
  refine ⟨?_, fun h => ?_⟩
  · cases hk : c.kind with
    | root =>
      intro h
      simp only [run_skip, bind_eq_ok_iff, reading_eq_ok_iff, run_operand_eq_ok_iff] at h
      obtain ⟨ss, c₁, hss, hs, rfl, rfl⟩ := h
      exact .query (.root hk) hss hs
    | current =>
      intro h
      simp only [run_skip, bind_eq_ok_iff, reading_eq_ok_iff, run_operand_eq_ok_iff] at h
      obtain ⟨ss, c₁, hss, hs, rfl, rfl⟩ := h
      exact .query (.current hk) hss hs
    | name =>
      dsimp only
      rw [run_next]
      split
      · intro h
        obtain ⟨he, rfl⟩ := reads_literal_iff.mp (reading_eq_ok_iff.mp h)
        exact .literal he
      · next hw =>
        exact fun h => .call ((isFunctionName_iff hk).mpr hw) (reading_eq_ok_iff.mp h)
    | _ =>
      intro h
      obtain ⟨he, rfl⟩ := reads_literal_iff.mp (reading_eq_ok_iff.mp h)
      exact .literal he
  · cases h with
    | literal he =>
      have hr := reading_eq_ok_iff.mpr (reads_literal_iff.mpr ⟨he, rfl⟩)
      rcases (isLiteral_iff.mp he).1 with hk | hk | hk | hw
      · simpa only [Cursor.kind, hk] using hr
      · simpa only [Cursor.kind, hk] using hr
      · simpa only [Cursor.kind, hk] using hr
      · simpa only [Cursor.kind, hw.1, run_next, if_pos hw] using hr
    | call hf he =>
      have hw : ¬ IsKeyword c.token := (isFunctionName_iff hf.1).mp hf
      simpa only [Cursor.kind, hf.1, run_next, if_neg hw, run_skip, reading_eq_ok_iff] using he
    | query ha hs hsing =>
      cases ha with
      | root hk | current hk =>
        simp only [Cursor.kind, hk, run_skip, bind_eq_ok_iff, reading_eq_ok_iff,
          run_operand_eq_ok_iff]
        exact ⟨_, _, hs, hsing, rfl, rfl⟩

/-- A token is a comparison if it stands for one. -/
theorem isComparison_iff {k : Kind} : k.isComparison = true ↔ ∃ op, comparison? k = some op := by
  cases k <;> simp [Kind.isComparison, comparison?]

/-- An operand stays by itself where no operator follows, and is compared where one does. -/
theorem reads_compared_iff {l e : Expr} :
    Reads (compared l c) e d ↔ (comparison? c.kind = none ∧ e = l ∧ d = c) ∨
      ∃ op r, comparison? c.kind = some op ∧ Reads (comparable c.skip) r d ∧
        e = .binary (.compare op) l r := by
  rw [← reading_eq_ok_iff, reading_compared, Program.compared, run_kind c rfl]
  cases comparison? c.kind with
  | none =>
    simp only [pure_eq_ok_iff, reduceCtorEq, true_and, false_and, exists_false, or_false]
  | some op =>
    simp only [run_skip, bind_eq_ok_iff, reading_eq_ok_iff, pure_eq_ok_iff]
    refine ⟨?_, ?_⟩
    · rintro ⟨r, c₁, hr, rfl, rfl⟩
      exact .inr ⟨op, r, rfl, hr, rfl⟩
    · rintro (⟨ho, -⟩ | ⟨op', r, ho, hr, rfl⟩)
      · cases ho
      · cases ho
        exact ⟨r, d, hr, rfl, rfl⟩

/-- How a test is read that starts with an embedded query. -/
inductive QueryTestRead (a : Anchor) (c : Cursor) : Expr → Cursor → Prop
  | nodes {ss d} (hs : Reads (segments c) ss d) (hd : comparison? d.kind = none) :
      QueryTestRead a c (.nodes a ss) d
  | comparison {ss c₁ op r d} (hs : Reads (segments c) ss c₁)
      (hsing : ss.all Segment.isSingular = true) (ho : comparison? c₁.kind = some op)
      (hr : Reads (comparable c₁.skip) r d) :
      QueryTestRead a c (.binary (.compare op) (.single a ss) r) d

/-- An embedded query at the start of a test is read as `QueryTestRead` says. -/
theorem reads_queryTest_iff {a : Anchor} {e : Expr} :
    Reads (queryTest a c) e d ↔ QueryTestRead a c e d := by
  rw [← reading_eq_ok_iff, reading_queryTest, Program.queryTest, bind_eq_ok_iff]
  refine ⟨?_, fun h => ?_⟩
  -- Whether a comparison follows decides on both sides, since the program looks at the next token
  -- too.
  · rintro ⟨ss, c₁, hss, h⟩
    rw [reading_eq_ok_iff] at hss
    rw [run_kind c₁ rfl] at h
    split at h
    · next hc =>
      obtain ⟨op, ho⟩ := isComparison_iff.mp hc
      simp only [bind_eq_ok_iff, run_operand_eq_ok_iff, reading_eq_ok_iff] at h
      obtain ⟨l, c₂, ⟨hs, rfl, rfl⟩, he⟩ := h
      rcases reads_compared_iff.mp he with ⟨ho', -⟩ | ⟨op', r, ho', hr, rfl⟩
      · cases ho.symm.trans ho'
      · exact .comparison hss hs ho' hr
    · next hc =>
      obtain ⟨rfl, rfl⟩ := pure_eq_ok_iff.mp h
      refine .nodes hss (Option.eq_none_iff_forall_ne_some.mpr fun op ho => ?_)
      exact hc (isComparison_iff.mpr ⟨op, ho⟩)
  · cases h with
    | nodes hs hd =>
      have hc : ¬ d.kind.isComparison = true := by simp [isComparison_iff, hd]
      refine ⟨_, _, reading_eq_ok_iff.mpr hs, ?_⟩
      rw [run_kind d rfl, if_neg hc]
      exact pure_eq_ok_iff.mpr ⟨rfl, rfl⟩
    | @comparison ss c₁ op r d hs hsing ho hr =>
      refine ⟨_, _, reading_eq_ok_iff.mpr hs, ?_⟩
      rw [run_kind c₁ rfl, if_pos (isComparison_iff.mpr ⟨op, ho⟩)]
      simp only [bind_eq_ok_iff, run_operand_eq_ok_iff, reading_eq_ok_iff]
      exact ⟨_, _, ⟨hsing, rfl, rfl⟩, reads_compared_iff.mpr (.inr ⟨op, r, ho, hr, rfl⟩)⟩

/-- How a simple test is read. -/
inductive SimpleRead (c : Cursor) : Expr → Cursor → Prop
  | paren {e d} (hk : c.kind = .openParen) (he : Reads (parenthesized c.skip) e d) :
      SimpleRead c e d
  | call {e d} (hf : IsFunctionName c.token) (he : Reads (call c.token.text c.skip) e d) :
      SimpleRead c e d
  | query {a ss d} (ha : IsAnchor c.token a) (hs : Reads (segments c.skip) ss d) :
      SimpleRead c (.nodes a ss) d

/-- What follows an exclamation mark is a simple expression. -/
theorem reads_negated_iff {e : Expr} : Reads (negated c) e d ↔ SimpleRead c e d := by
  rw [← reading_eq_ok_iff, reading_negated, Program.negated, run_kind c rfl]
  refine ⟨?_, fun h => ?_⟩
  -- Forwards, the first token decides which branch was taken; backwards, the phrase says what its
  -- first token is.
  · cases hk : c.kind with
    | openParen => exact fun h => .paren hk (reading_eq_ok_iff.mp h)
    | root =>
      intro h
      simp only [run_skip, bind_eq_ok_iff, reading_eq_ok_iff, pure_eq_ok_iff] at h
      obtain ⟨ss, c₁, hss, rfl, rfl⟩ := h
      exact .query (.root hk) hss
    | current =>
      intro h
      simp only [run_skip, bind_eq_ok_iff, reading_eq_ok_iff, pure_eq_ok_iff] at h
      obtain ⟨ss, c₁, hss, rfl, rfl⟩ := h
      exact .query (.current hk) hss
    | name =>
      dsimp only
      rw [run_next]
      split
      · exact fun h => absurd h unexpected_ne_ok
      · next hw =>
        exact fun h => .call ((isFunctionName_iff hk).mpr hw) (reading_eq_ok_iff.mp h)
    | _ => exact fun h => absurd h unexpected_ne_ok
  · cases h with
    | paren hk he => simpa only [hk, run_skip, reading_eq_ok_iff] using he
    | call hf he =>
      have hw : ¬ IsKeyword c.token := (isFunctionName_iff hf.1).mp hf
      simpa only [Cursor.kind, hf.1, run_next, if_neg hw, run_skip, reading_eq_ok_iff] using he
    | query ha hs =>
      cases ha with
      | root hk | current hk =>
        simp only [Cursor.kind, hk, run_skip, bind_eq_ok_iff, reading_eq_ok_iff, pure_eq_ok_iff]
        exact ⟨_, _, hs, rfl, rfl⟩

/-- How a test is read. -/
inductive TestRead (c : Cursor) : Expr → Cursor → Prop
  | not {e d} (hk : c.kind = .negation) (he : Reads (negated c.skip) e d) : TestRead c (.not e) d
  | paren {e d} (hk : c.kind = .openParen) (he : Reads (parenthesized c.skip) e d) :
      TestRead c e d
  | simple {e d} (hk : c.kind ≠ .openParen) (he : Reads (negated c) e d)
      (hd : comparison? d.kind = none) : TestRead c e d
  | comparison {l c₁ op r d} (hl : Reads (comparable c) l c₁) (ho : comparison? c₁.kind = some op)
      (hr : Reads (comparable c₁.skip) r d) : TestRead c (.binary (.compare op) l r) d

/-- A test that starts with an embedded query is a simple test or a comparison. -/
theorem QueryTestRead.testRead {a : Anchor} {e : Expr} (ha : IsAnchor c.token a)
    (h : QueryTestRead a c.skip e d) : TestRead c e d := by
  cases h with
  | nodes hs hd =>
    refine .simple ?_ (reads_negated_iff.mpr (.query ha hs)) hd
    cases ha with
    | root hk => exact fun hk' => nomatch hk.symm.trans hk'
    | current hk => exact fun hk' => nomatch hk.symm.trans hk'
  | comparison hs hsing ho hr =>
    exact .comparison (reads_comparable_iff.mpr (.query ha hs hsing)) ho hr

/-- A test that starts with a literal is a comparison. -/
theorem literalTest_eq_ok_iff {e : Expr} :
    Program.literalTest c = .ok (e, d) ↔ ∃ l op r, IsLiteral c.token l ∧
      comparison? c.skip.kind = some op ∧ Reads (comparable c.skip.skip) r d ∧
      e = .binary (.compare op) l r := by
  rw [Program.literalTest, bind_eq_ok_iff]
  refine ⟨?_, ?_⟩
  · rintro ⟨l, c₁, hl, h⟩
    obtain ⟨hlit, rfl⟩ := reads_literal_iff.mp (reading_eq_ok_iff.mp hl)
    rw [run_kind _ rfl] at h
    split at h
    · next hc =>
      obtain ⟨op, ho⟩ := isComparison_iff.mp hc
      rcases reads_compared_iff.mp (reading_eq_ok_iff.mp h) with ⟨ho', -⟩ | ⟨op', r, ho', hr, rfl⟩
      · cases ho.symm.trans ho'
      · exact ⟨l, op', r, hlit, ho', hr, rfl⟩
    · exact absurd h unexpected_ne_ok
  · rintro ⟨l, op, r, hlit, ho, hr, rfl⟩
    refine ⟨l, c.skip, reading_eq_ok_iff.mpr (reads_literal_iff.mpr ⟨hlit, rfl⟩), ?_⟩
    rw [run_kind _ rfl, if_pos (isComparison_iff.mpr ⟨op, ho⟩), reading_eq_ok_iff]
    exact reads_compared_iff.mpr (.inr ⟨op, r, ho, hr, rfl⟩)

theorem testRead_of_literalTest {e : Expr} (h : Program.literalTest c = .ok (e, d)) :
    TestRead c e d := by
  obtain ⟨l, op, r, hlit, ho, hr, rfl⟩ := literalTest_eq_ok_iff.mp h
  exact .comparison (reads_comparable_iff.mpr (.literal hlit)) ho hr

/-- A test that starts with a call is a simple test or a comparison. -/
theorem testRead_of_call {l e : Expr} {c₁ : Cursor} (hf : IsFunctionName c.token)
    (hl : Reads (call c.token.text c.skip) l c₁) (he : Reads (compared l c₁) e d) :
    TestRead c e d := by
  rcases reads_compared_iff.mp he with ⟨ho, rfl, rfl⟩ | ⟨op, r, ho, hr, rfl⟩
  · refine .simple ?_ (reads_negated_iff.mpr (.call hf hl)) ho
    exact fun hk => nomatch hf.1.symm.trans hk
  · exact .comparison (reads_comparable_iff.mpr (.call hf hl)) ho hr

/-- What is read as a test is one. -/
theorem testRead_of_reads {e : Expr} : Reads (test c) e d → TestRead c e d := by
  rw [← reading_eq_ok_iff, reading_test, Program.test, run_kind c rfl]
  -- A test is told by its first token, and only a name needs a second look: it may be a keyword.
  cases hk : c.kind with
  | negation =>
    intro h
    simp only [run_skip, bind_eq_ok_iff, reading_eq_ok_iff, pure_eq_ok_iff] at h
    obtain ⟨e, c₁, he, rfl, rfl⟩ := h
    exact .not hk he
  | openParen => exact fun h => .paren hk (reading_eq_ok_iff.mp h)
  | root =>
    exact fun h => (reads_queryTest_iff.mp (reading_eq_ok_iff.mp h)).testRead (.root hk)
  | current =>
    exact fun h => (reads_queryTest_iff.mp (reading_eq_ok_iff.mp h)).testRead (.current hk)
  | name =>
    dsimp only
    rw [run_next]
    split
    · exact testRead_of_literalTest
    · next hw =>
      intro h
      simp only [run_skip, bind_eq_ok_iff, reading_eq_ok_iff] at h
      obtain ⟨l, c₁, hl, he⟩ := h
      exact testRead_of_call ((isFunctionName_iff hk).mpr hw) hl he
  | _ => exact testRead_of_literalTest

theorem reads_test_of_query {a : Anchor} {e : Expr} (ha : IsAnchor c.token a)
    (he : QueryTestRead a c.skip e d) : Reads (test c) e d := by
  have hr := reads_queryTest_iff.mpr he
  rw [← reading_eq_ok_iff, reading_test, Program.test, run_kind c rfl]
  cases ha with
  | root hk | current hk => simpa only [Cursor.kind, hk, run_skip, reading_eq_ok_iff] using hr

theorem reads_test_of_call {l e : Expr} {c₁ : Cursor} (hf : IsFunctionName c.token)
    (hl : Reads (call c.token.text c.skip) l c₁) (he : Reads (compared l c₁) e d) :
    Reads (test c) e d := by
  have hw : ¬ IsKeyword c.token := (isFunctionName_iff hf.1).mp hf
  rw [← reading_eq_ok_iff, reading_test, Program.test, run_kind c hf.1]
  simp only [run_next, if_neg hw, run_skip, bind_eq_ok_iff, reading_eq_ok_iff]
  exact ⟨l, c₁, hl, he⟩

theorem reads_test_of_literalTest {e : Expr} (hl : LooksLiteral c.token)
    (h : Program.literalTest c = .ok (e, d)) : Reads (test c) e d := by
  rw [← reading_eq_ok_iff, reading_test, Program.test, run_kind c rfl]
  rcases hl with hk | hk | hk | hw
  · simpa only [Cursor.kind, hk] using h
  · simpa only [Cursor.kind, hk] using h
  · simpa only [Cursor.kind, hk] using h
  · simpa only [Cursor.kind, hw.1, run_next, if_pos hw] using h

/-- Every test is read as one. -/
theorem reads_of_testRead {e : Expr} (h : TestRead c e d) : Reads (test c) e d := by
  cases h with
  | not hk he =>
    rw [← reading_eq_ok_iff, reading_test, Program.test, run_kind c hk]
    simp only [run_skip, bind_eq_ok_iff, reading_eq_ok_iff, pure_eq_ok_iff]
    exact ⟨_, _, he, rfl, rfl⟩
  | paren hk he =>
    rw [← reading_eq_ok_iff, reading_test, Program.test, run_kind c hk]
    exact reading_eq_ok_iff.mpr he
  | simple hk he hd =>
    cases reads_negated_iff.mp he with
    | paren hk' => exact absurd hk' hk
    | call hf he =>
      exact reads_test_of_call hf he (reads_compared_iff.mpr (.inl ⟨hd, rfl, rfl⟩))
    | query ha hs => exact reads_test_of_query ha (.nodes hs hd)
  | @comparison l c₁ op r d hl ho hr =>
    cases reads_comparable_iff.mp hl with
    | literal hlit =>
      exact reads_test_of_literalTest (isLiteral_iff.mp hlit).1
        (literalTest_eq_ok_iff.mpr ⟨l, op, r, hlit, ho, hr, rfl⟩)
    | call hf hl =>
      exact reads_test_of_call hf hl (reads_compared_iff.mpr (.inr ⟨op, r, ho, hr, rfl⟩))
    | query ha hs hsing => exact reads_test_of_query ha (.comparison hs hsing ho hr)

/-- A test is read as `TestRead` says. -/
theorem reads_test_iff {e : Expr} : Reads (test c) e d ↔ TestRead c e d :=
  ⟨testRead_of_reads, reads_of_testRead⟩

/-- How a call is read behind the name of its function. -/
inductive CallRead (f : String) (c : Cursor) : Expr → Cursor → Prop
  | none (hk : c.kind = .openParen) (hk' : c.skip.kind = .closeParen) :
      CallRead f c (.call f []) c.skip.skip
  | some {e c₁ es d} (hk : c.kind = .openParen) (hk' : c.skip.kind ≠ .closeParen)
      (he : Reads (argument c.skip) e c₁) (hes : Reads (moreArguments c₁) es d) :
      CallRead f c (.call f (e :: es)) d

/-- A call is read as `CallRead` says. -/
theorem reads_call_iff {f : String} {e : Expr} : Reads (call f c) e d ↔ CallRead f c e d := by
  rw [← reading_eq_ok_iff, reading_call, Program.call, run_kind c rfl]
  refine ⟨?_, fun h => ?_⟩
  · split
    · next hk =>
      rw [run_skip, run_kind c.skip rfl]
      split
      · next hk' =>
        intro h
        obtain ⟨rfl, rfl⟩ := pure_eq_ok_iff.mp h
        exact .none hk hk'
      · next hk' =>
        intro h
        obtain ⟨e, c₁, es, he, hes, rfl⟩ := run_pair_eq_ok_iff.mp h
        exact .some hk hk' he hes
    · exact fun h => absurd h unexpected_ne_ok
  · cases h with
    | none hk hk' =>
      rw [if_pos hk, run_skip, run_kind c.skip hk', if_pos rfl]
      exact pure_eq_ok_iff.mpr ⟨rfl, rfl⟩
    | some hk hk' he hes =>
      rw [if_pos hk, run_skip, run_kind c.skip rfl, if_neg hk']
      exact run_pair_eq_ok_iff.mpr ⟨_, _, _, he, hes, rfl⟩

/-- How arguments are read behind the first. -/
inductive MoreArgumentsRead (c : Cursor) : List Expr → Cursor → Prop
  | more {e c₁ es d} (hk : c.kind = .comma) (he : Reads (argument c.skip) e c₁)
      (hes : Reads (moreArguments c₁) es d) : MoreArgumentsRead c (e :: es) d
  | none (hk : c.kind = .closeParen) : MoreArgumentsRead c [] c.skip

theorem reads_moreArguments_iff {es : List Expr} :
    Reads (moreArguments c) es d ↔ MoreArgumentsRead c es d := by
  rw [← reading_eq_ok_iff, reading_moreArguments, Program.moreArguments, run_kind c rfl]
  refine ⟨?_, fun h => ?_⟩
  · cases hk : c.kind with
    | comma =>
      intro h
      obtain ⟨e, c₁, es, he, hes, rfl⟩ := run_pair_eq_ok_iff.mp h
      exact .more hk he hes
    | closeParen =>
      intro h
      obtain ⟨rfl, rfl⟩ := pure_eq_ok_iff.mp h
      exact .none hk
    | _ => exact fun h => absurd h unexpected_ne_ok
  · cases h with
    | more hk he hes =>
      rw [hk]
      exact run_pair_eq_ok_iff.mpr ⟨_, _, _, he, hes, rfl⟩
    | none hk => simp only [hk, run_skip, pure_eq_ok_iff, and_self]

/-- How an argument is read. -/
inductive ArgumentRead (c : Cursor) : Expr → Cursor → Prop
  | literal {l e d} (hl : IsLiteral c.token l) (he : Reads (compared l c.skip) e d) :
      ArgumentRead c e d
  | expr {e d} (hn : ¬ LooksLiteral c.token) (he : Reads (disjunction c) e d) :
      ArgumentRead c e d

/-- An argument is read as `ArgumentRead` says. -/
theorem reads_argument_iff {e : Expr} : Reads (argument c) e d ↔ ArgumentRead c e d := by
  rw [← reading_eq_ok_iff, reading_argument, Program.argument, run_next]
  split
  · next hl =>
    simp only [bind_eq_ok_iff, reading_eq_ok_iff, reads_literal_iff]
    refine ⟨?_, fun h => ?_⟩
    · rintro ⟨l, c₁, ⟨hlit, rfl⟩, he⟩
      exact .literal hlit he
    · cases h with
      | literal hlit he => exact ⟨_, _, ⟨hlit, rfl⟩, he⟩
      | expr hn he => exact absurd hl hn
  · next hn =>
    rw [reading_eq_ok_iff]
    refine ⟨.expr hn, fun h => ?_⟩
    cases h with
    | literal hlit he => exact absurd (isLiteral_iff.mp hlit).1 hn
    | expr _ he => exact he

end Phrase

end JsonPath.Query
