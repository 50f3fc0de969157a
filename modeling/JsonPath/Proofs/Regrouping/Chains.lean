import JsonPath.Proofs.Grammar.Canonical
import JsonPath.Proofs.Grammar.Completeness
import JsonPath.Proofs.Regrouping

/-!
# Reading chains of tests

What the loops for `&&` and `||` hold when they come to a test is a `Front`, and what they hold
behind it is a `Chain`. `ReadsFrom` and `ReadsOn` are what the loops go on to read.
-/

namespace JsonPath.Query

open JsonPath.Text JsonPath.Token Grammar Phrase

variable {c c' d : Cursor}

/-! ## Chains -/

/-- The loops, holding a chain at the place `c`, go on to read `e` up to the place `d`. -/
def ReadsOn (k : Chain) (c : Cursor) (e : Expr) (d : Cursor) : Prop :=
  ∃ y c₁, Reads (moreConjuncts k.conjunction c) y c₁ ∧
    Reads (moreDisjuncts (joined .or k.disjuncts y) c₁) e d

/-- A test is read behind a front. Behind a negation it is a simple one. -/
def Front.ReadsTest (s : Front) (c : Cursor) (t : Expr) (d : Cursor) : Prop :=
  if s.negated then SimpleRead c t d else Reads (test c) t d

/-- The loops, holding a front at the place `c`, go on to read `e` up to the place `d`. -/
def ReadsFrom (s : Front) (c : Cursor) (e : Expr) (d : Cursor) : Prop :=
  ∃ t c₁, s.ReadsTest c t c₁ ∧ ReadsOn (s.take t) c₁ e d

/-- To read a disjunction is to read on with nothing in front. -/
theorem readsFrom_start_iff {e : Expr} :
    Reads (disjunction c) e d ↔ ReadsFrom .start c e d := by
  rw [reads_disjunction_iff]
  refine ⟨?_, ?_⟩
  · rintro ⟨l, c₁, hl, he⟩
    obtain ⟨t, c₂, ht, hl⟩ := reads_conjunction_iff.mp hl
    exact ⟨t, c₂, ht, l, c₁, hl, he⟩
  · rintro ⟨t, c₂, ht, l, c₁, hl, he⟩
    exact ⟨l, c₁, reads_conjunction_iff.mpr ⟨t, c₂, ht, hl⟩, he⟩

/-- A disjunct is added to the chain. -/
theorem readsOn_or_iff {k : Chain} {e : Expr} (h : c.kind = .disjunction) :
    ReadsOn k c e d ↔ ReadsFrom k.or c.skip e d := by
  refine ⟨?_, ?_⟩
  · rintro ⟨y, c₁, hy, he⟩
    rcases reads_moreConjuncts_iff.mp hy with ⟨hk, -⟩ | ⟨-, rfl, rfl⟩
    · exact nomatch h.symm.trans hk
    · rcases reads_moreDisjuncts_iff.mp he with ⟨-, r, c₂, hr, he⟩ | ⟨hk, -, -⟩
      · obtain ⟨t, c₃, ht, hr⟩ := reads_conjunction_iff.mp hr
        exact ⟨t, c₃, ht, r, c₂, hr, he⟩
      · exact absurd h hk
  · rintro ⟨t, c₃, ht, r, c₂, hr, he⟩
    refine ⟨_, c, reads_moreConjuncts_iff.mpr (.inr ⟨h ▸ by decide, rfl, rfl⟩), ?_⟩
    exact reads_moreDisjuncts_iff.mpr
      (.inl ⟨h, r, c₂, reads_conjunction_iff.mpr ⟨t, c₃, ht, hr⟩, he⟩)

theorem readsOn_and_iff {k : Chain} {e : Expr} (h : c.kind = .conjunction) :
    ReadsOn k c e d ↔ ReadsFrom k.and c.skip e d := by
  refine ⟨?_, ?_⟩
  · rintro ⟨y, c₁, hy, he⟩
    rcases reads_moreConjuncts_iff.mp hy with ⟨-, t, c₂, ht, hy⟩ | ⟨hk, -, -⟩
    · exact ⟨t, c₂, ht, y, c₁, hy, he⟩
    · exact absurd h hk
  · rintro ⟨t, c₂, ht, y, c₁, hy, he⟩
    exact ⟨y, c₁, reads_moreConjuncts_iff.mpr (.inl ⟨h, t, c₂, ht, hy⟩), he⟩

/-- Without a connective the chain is the whole expression. -/
theorem readsOn_ends_iff {k : Chain} {e : Expr} (h₁ : c.kind ≠ .conjunction)
    (h₂ : c.kind ≠ .disjunction) : ReadsOn k c e d ↔ e = k.whole ∧ d = c := by
  refine ⟨?_, ?_⟩
  · rintro ⟨y, c₁, hy, he⟩
    rcases reads_moreConjuncts_iff.mp hy with ⟨hk, -⟩ | ⟨-, rfl, rfl⟩
    · exact absurd hk h₁
    · rcases reads_moreDisjuncts_iff.mp he with ⟨hk, -⟩ | ⟨-, rfl, rfl⟩
      · exact absurd hk h₂
      · exact ⟨rfl, rfl⟩
  · rintro ⟨rfl, rfl⟩
    exact ⟨_, d, reads_moreConjuncts_iff.mpr (.inr ⟨h₁, rfl, rfl⟩),
      reads_moreDisjuncts_iff.mpr (.inr ⟨h₂, rfl, rfl⟩)⟩

/-! ## Tests -/

theorem not_simpleRead_of_negation {t : Expr} (h : c.kind = .negation) : ¬ SimpleRead c t d := by
  intro ht
  cases ht with
  | paren hk => exact nomatch h.symm.trans hk
  | call hf => exact nomatch h.symm.trans hf.1
  | query ha =>
    cases ha with
    | root hk => exact nomatch h.symm.trans hk
    | current hk => exact nomatch h.symm.trans hk

/-- Behind a negation sign a simple expression is read. -/
theorem reads_test_of_negation_iff {t : Expr} (h : c.kind = .negation) :
    Reads (test c) t d ↔ ∃ u, SimpleRead c.skip u d ∧ t = .not u := by
  rw [reads_test_iff]
  refine ⟨?_, ?_⟩
  · intro ht
    cases ht with
    | not _ he => exact ⟨_, reads_negated_iff.mp he, rfl⟩
    | paren hk => exact nomatch h.symm.trans hk
    | simple _ he => exact absurd (reads_negated_iff.mp he) (not_simpleRead_of_negation h)
    | comparison hl =>
      cases reads_comparable_iff.mp hl with
      | literal hlit =>
        have hc : LooksLiteral c.token := (isLiteral_iff.mp hlit).1
        have hk : c.token.kind = .negation := h
        simp [LooksLiteral, IsKeyword, hk] at hc
      | call hf hcall => exact absurd (.call hf hcall) (not_simpleRead_of_negation h)
      | query ha hss => exact absurd (.query ha hss) (not_simpleRead_of_negation h)
  · rintro ⟨u, hu, rfl⟩
    exact .not h (reads_negated_iff.mpr hu)

/-- Where a simple test is all that can be read, it is the test that is read. -/
theorem reads_test_of_simple {t₀ t : Expr} {ok : Prop} (hc : c.kind ≠ .negation)
    (hl : ¬ LooksLiteral c.token) (hc' : comparison? c'.kind = none)
    (h : ∀ t d, SimpleRead c t d ↔ ok ∧ t = t₀ ∧ d = c') :
    Reads (test c) t d ↔ ok ∧ t = t₀ ∧ d = c' := by
  rw [reads_test_iff, ← h]
  refine ⟨?_, ?_⟩
  · intro ht
    cases ht with
    | not hk => exact absurd hk hc
    | paren hk he => exact .paren hk he
    | simple _ he => exact reads_negated_iff.mp he
    | @comparison l c₁ op _ _ he ho =>
      have hs : ∃ u, SimpleRead c u c₁ := by
        cases reads_comparable_iff.mp he with
        | literal hlit => exact absurd (isLiteral_iff.mp hlit).1 hl
        | call hf hcall => exact ⟨_, .call hf hcall⟩
        | query ha hss => exact ⟨_, .query ha hss⟩
      obtain ⟨u, hu⟩ := hs
      rw [((h u c₁).mp hu).2.2, hc'] at ho
      cases ho
  · intro hs
    obtain ⟨-, -, rfl⟩ := (h t d).mp hs
    -- A group in parentheses is a branch of its own of the reader, and all others are one.
    by_cases hk : c.kind = .openParen
    · cases hs with
      | paren hk he => exact .paren hk he
      | call hf => cases hf.1.symm.trans hk
      | query ha =>
        cases ha with
        | root hk' => cases hk'.symm.trans hk
        | current hk' => cases hk'.symm.trans hk
    · exact .simple hk (reads_negated_iff.mpr hs) hc'

/-- Where one operand is all that can be read in front of a comparison, and one behind it, the
comparison of the two is the test that is read. -/
theorem reads_test_of_comparison {c₁ : Cursor} {l₀ r₀ t : Expr} {ok ok' : Prop} {op : Comparison}
    (hn : c.kind ≠ .negation) (hp : c.kind ≠ .openParen) (ho : comparison? c₁.kind = some op)
    (hl : ∀ l d, Reads (comparable c) l d ↔ ok ∧ l = l₀ ∧ d = c₁)
    (hs : ∀ t d, SimpleRead c t d → d = c₁)
    (hr : ∀ r d, Reads (comparable c₁.skip) r d ↔ ok' ∧ r = r₀ ∧ d = c') :
    Reads (test c) t d ↔ (ok ∧ ok') ∧ t = .binary (.compare op) l₀ r₀ ∧ d = c' := by
  rw [reads_test_iff]
  refine ⟨?_, ?_⟩
  · intro ht
    cases ht with
    | not hk => exact absurd hk hn
    | paren hk => exact absurd hk hp
    | simple _ he hd =>
      rw [hs _ _ (reads_negated_iff.mp he), ho] at hd
      cases hd
    | comparison he ho' he' =>
      obtain ⟨hok, rfl, rfl⟩ := (hl _ _).mp he
      obtain ⟨hok', rfl, rfl⟩ := (hr _ _).mp he'
      rw [ho] at ho'
      cases ho'
      exact ⟨⟨hok, hok'⟩, rfl, rfl⟩
  · rintro ⟨⟨hok, hok'⟩, rfl, rfl⟩
    exact .comparison ((hl _ _).mpr ⟨hok, rfl, rfl⟩) ho ((hr _ _).mpr ⟨hok', rfl, rfl⟩)

/-! ## From front to chain -/

/-- A negation sign is taken in front of a simple expression, and only one. -/
theorem readsFrom_of_negation {s : Front} {e : Expr} (h : c.kind = .negation) :
    ReadsFrom s c e d ↔ s.negated = false ∧ ReadsFrom s.negate c.skip e d := by
  obtain ⟨o, a, negated⟩ := s
  cases negated with
  | true =>
    refine iff_of_false ?_ fun h => nomatch h.1
    rintro ⟨t, c₁, ht, -⟩
    exact not_simpleRead_of_negation h ht
  | false =>
    refine ⟨?_, ?_⟩
    · rintro ⟨t, c₁, ht, he⟩
      obtain ⟨u, hu, rfl⟩ := (reads_test_of_negation_iff h).mp ht
      exact ⟨rfl, u, c₁, hu, he⟩
    · rintro ⟨-, u, c₁, hu, he⟩
      exact ⟨.not u, c₁, (reads_test_of_negation_iff h).mpr ⟨u, hu, rfl⟩, he⟩

/-- A simple expression is taken into the chain. -/
theorem readsFrom_of_simple {s : Front} {t₀ e : Expr} {ok : Prop} (hc : c.kind ≠ .negation)
    (hl : ¬ LooksLiteral c.token) (hc' : comparison? c'.kind = none)
    (h : ∀ t d, SimpleRead c t d ↔ ok ∧ t = t₀ ∧ d = c') :
    ReadsFrom s c e d ↔ ok ∧ ReadsOn (s.take t₀) c' e d := by
  have ht : ∀ t d, s.ReadsTest c t d ↔ ok ∧ t = t₀ ∧ d = c' := by
    intro t d
    unfold Front.ReadsTest
    split
    · exact h t d
    · exact reads_test_of_simple hc hl hc' h
  refine ⟨?_, ?_⟩
  · rintro ⟨t, c₁, hr, he⟩
    obtain ⟨hok, rfl, rfl⟩ := (ht t c₁).mp hr
    exact ⟨hok, he⟩
  · rintro ⟨hok, he⟩
    exact ⟨t₀, c', (ht _ _).mpr ⟨hok, rfl, rfl⟩, he⟩

/-- A comparison is not read behind a negation: that would end in front of the sign of the
comparison, where nothing ends. -/
theorem readsFrom_of_comparison {s : Front} {c₁ : Cursor} {l₀ r₀ e : Expr} {ok ok' : Prop}
    {op : Comparison} (hn : c.kind ≠ .negation) (hp : c.kind ≠ .openParen)
    (ho : comparison? c₁.kind = some op)
    (hl : ∀ l d, Reads (comparable c) l d ↔ ok ∧ l = l₀ ∧ d = c₁)
    (hs : ∀ t d, SimpleRead c t d → d = c₁)
    (hr : ∀ r d, Reads (comparable c₁.skip) r d ↔ ok' ∧ r = r₀ ∧ d = c')
    (hd : comparison? d.kind = none) :
    ReadsFrom s c e d ↔ ((ok ∧ ok') ∧ s.negated = false) ∧
      ReadsOn (s.take (.binary (.compare op) l₀ r₀)) c' e d := by
  obtain ⟨o, a, negated⟩ := s
  cases negated with
  | true =>
    refine iff_of_false ?_ fun h => nomatch h.1.2
    rintro ⟨t, c₂, ht, he⟩
    obtain rfl := hs t c₂ ht
    have hcon : c₂.kind ≠ .conjunction := fun hk => by simp [hk, comparison?] at ho
    have hdis : c₂.kind ≠ .disjunction := fun hk => by simp [hk, comparison?] at ho
    obtain ⟨-, rfl⟩ := (readsOn_ends_iff hcon hdis).mp he
    rw [ho] at hd
    cases hd
  | false =>
    refine ⟨?_, ?_⟩
    · rintro ⟨t, c₂, ht, he⟩
      obtain ⟨hok, rfl, rfl⟩ := (reads_test_of_comparison hn hp ho hl hs hr).mp ht
      exact ⟨⟨hok, rfl⟩, he⟩
    · rintro ⟨⟨hok, -⟩, he⟩
      exact ⟨_, c', (reads_test_of_comparison hn hp ho hl hs hr).mpr ⟨hok, rfl, rfl⟩, he⟩

end JsonPath.Query
