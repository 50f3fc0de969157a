import JsonPath.Proofs.Grammar.Soundness
import JsonPath.Proofs.Reading.Program

/-!
# Reading in good order

Every step of reading is `Orderly`: it leads over a stretch of tokens, either to the place behind
what is read or to the place of the token at fault, and it would lead to the same in front of any
other tokens that start alike. There is a rule for each kind of step, and with these rules a theorem
for each reading function, which follows its program in `Proofs.Reading.Program`.

How far "alike" has to go is the `reach` of an error. It is the token at fault, and one token more
if an operand is at fault: that an embedded query is over, and that it is an operand, shows only
behind it.
-/

namespace JsonPath.Query

open JsonPath.Token Grammar

/-- The number of the last token that an error depends on. -/
def ParseError.reach (e : ParseError) : Nat :=
  if e.cause = .nonSingular then e.position + 1 else e.position

/-! ## Places that look alike -/

namespace Cursor

variable {n : Nat} {c c' : Cursor} {k : Kind}

/-- The next token is the last one before the place behind it. -/
theorem before_skip (h : c.kind = k) (hk : k ≠ .endOfInput) :
    c.skip.before = c.token :: c.before := (Through.skip h hk).before

/-- The place behind the next token is one token further. -/
theorem position_skip (h : c.kind = k) (hk : k ≠ .endOfInput) :
    c.skip.position = c.position + 1 := by
  rw [position, before_skip h hk]
  rfl

/-- What is ahead of the place behind the next token. -/
theorem getD_after_skip (h : c.kind = k) (hk : k ≠ .endOfInput) (i : Nat) :
    c.skip.after.getD i endOfInput = c.after.getD (i + 1) endOfInput := by
  rw [(Through.skip h hk).after]
  rfl

/-- Two places with the same tokens before them, and with the same tokens ahead up to the token
number `n`. -/
structure AgreesTo (n : Nat) (c c' : Cursor) : Prop where
  before : c'.before = c.before
  ahead : ∀ i, c.position + i ≤ n → c'.after.getD i endOfInput = c.after.getD i endOfInput

namespace AgreesTo

theorem position (h : AgreesTo n c c') : c'.position = c.position := by
  rw [Cursor.position, Cursor.position, h.before]

theorem token (h : AgreesTo n c c') (hn : c.position ≤ n) : c'.token = c.token := by
  have h₀ := h.ahead 0 hn
  rwa [← List.headD_eq_getD, ← List.headD_eq_getD] at h₀

theorem kind (h : AgreesTo n c c') (hn : c.position ≤ n) : c'.kind = c.kind := by
  rw [Cursor.kind, Cursor.kind, h.token hn]

/-- Places that agree up to a token agree behind the next one. -/
theorem skip (h : AgreesTo n c c') (hn : c.position ≤ n) (hc : c.kind = k)
    (hk : k ≠ .endOfInput) : AgreesTo n c.skip c'.skip := by
  have hc' : c'.kind = k := (h.kind hn).trans hc
  refine ⟨?_, fun i hi => ?_⟩
  · rw [before_skip hc' hk, before_skip hc hk, h.token hn, h.before]
  · rw [position_skip hc hk] at hi
    rw [getD_after_skip hc' hk, getD_after_skip hc hk]
    exact h.ahead (i + 1) (by omega)

/-- An error at the next token is the same at both places. -/
theorem error (h : AgreesTo n c c') (hn : c.position ≤ n) (cause : ParseError.Cause) :
    c'.error cause = c.error cause := by
  rw [Cursor.error, Cursor.error, h.token hn, h.position]

/-- A token that does not fit gives the same error at both places. -/
theorem unexpected (h : AgreesTo n c c') (hn : c.position ≤ n) : c'.unexpected = c.unexpected := by
  rw [Cursor.unexpected, Cursor.unexpected, h.kind hn, h.error hn]

end AgreesTo

end Cursor

/-! ## Steps in good order -/

/-- An error is about the token at the place `d`, or about the embedded query in front of it. -/
inductive Blames (d : Cursor) : ParseError → Prop
  /-- the token does not fit -/
  | unexpected : Blames d d.unexpected
  /-- the token is a number out of range -/
  | literal (hk : d.kind = .integer ∨ d.kind = .decimal) : Blames d (d.error .invalidLiteral)
  /-- the token is not the root sign that a query starts with -/
  | missingRoot (hk : d.kind ≠ .root) : Blames d (d.error .missingRoot)
  /-- the query next to a comparison operator has been read, and not all of it is singular -/
  | operand {c t b a ss} (ht : IsAnchor t a) (hb : c.before = t :: b)
      (hs : Reads (Phrase.segments c) ss d) (hsing : ss.all Segment.isSingular = false)
      (hop : (b.headD endOfInput).kind.isComparison = true ∨ d.kind.isComparison = true) :
      Blames d ⟨.nonSingular, d.last.text, d.position - 1⟩

/-- A stretch of tokens leads as many tokens further. -/
theorem Cursor.Through.position_eq {c d : Cursor} {ts : List Token} (h : c.Through ts d) :
    d.position = c.position + ts.length := by
  rw [Cursor.position, h.before, List.length_append, List.length_reverse, Nat.add_comm]
  rfl

/-- An error reaches to the place where reading was given up. -/
theorem Blames.reach_eq {d : Cursor} {e : ParseError} (h : Blames d e) : e.reach = d.position := by
  cases h with
  | unexpected =>
    rw [Cursor.unexpected]
    split
    · rfl
    · rfl
  | literal => rfl
  | missingRoot => rfl
  | @operand c t b a ss ht hb hs hsing hop =>
    obtain ⟨us, hu, -⟩ := Phrase.segments_sound _ hs
    have hpos : c.position = b.length + 1 := by
      rw [Cursor.position, hb]
      rfl
    change d.position - 1 + 1 = d.position
    rw [hu.position_eq, hpos]
    omega

variable {α β : Type}

/-- How far ahead a step of reading has looked at most. -/
def reach : Except ParseError (α × Cursor) → Nat
  | .error e => e.reach
  | .ok (_, d) => d.position

/-- Two outcomes that cannot be told apart up to the token number `n`. -/
inductive Alike (n : Nat) : Except ParseError (α × Cursor) → Except ParseError (α × Cursor) → Prop
  | error (e : ParseError) : Alike n (.error e) (.error e)
  | ok (x : α) {d d' : Cursor} (h : d.AgreesTo n d') : Alike n (.ok (x, d)) (.ok (x, d'))

/-- From the place `c` on, the step leads over a stretch of tokens, behind what is read or to the
token at fault, and it depends on no token further ahead. -/
structure Orderly (f : Reader α) (c : Cursor) : Prop where
  ok : ∀ x d, f c = .ok (x, d) → ∃ ts, c.Through ts d
  error : ∀ e, f c = .error e → ∃ ts d, c.Through ts d ∧ Blames d e
  steady : ∀ n c', reach (f c) ≤ n → c.AgreesTo n c' → Alike n (f c) (f c')

namespace Orderly

variable {c : Cursor} {f : Reader α}

/-- A step looks at least as far as its own place. -/
theorem position_le_reach (h : Orderly f c) : c.position ≤ reach (f c) := by
  cases ho : f c with
  | error e =>
    obtain ⟨ts, d, ht, hd⟩ := h.error e ho
    rw [reach, hd.reach_eq, ht.position_eq]
    omega
  | ok p =>
    obtain ⟨ts, ht⟩ := h.ok p.1 p.2 ho
    rw [reach, ht.position_eq]
    omega

theorem pure (x : α) (c : Cursor) : Orderly (pure x : Reader α) c := by
  refine ⟨?_, ?_, ?_⟩
  · intro y d h
    cases h
    exact ⟨[], .nil c⟩
  · intro e h
    cases h
  · intro n c' _ hc
    exact .ok x hc

/-- Giving up because of the next token. -/
theorem giveUp {e : Cursor → ParseError} (hb : Blames c (e c))
    (he : ∀ n c', c.position ≤ n → c.AgreesTo n c' → e c' = e c) :
    Orderly (fun c => .error (e c) : Reader α) c := by
  refine ⟨?_, ?_, ?_⟩
  · intro x d h
    cases h
  · intro e' h
    cases h
    exact ⟨[], c, .nil c, hb⟩
  · intro n c' hn hc
    rw [he n c' (hb.reach_eq ▸ hn) hc]
    exact .error _

theorem unexpected (c : Cursor) : Orderly (Reader.unexpected : Reader α) c :=
  giveUp .unexpected fun _ _ hn hc => hc.unexpected hn

/-- Giving up for a cause that the next token bears out. -/
theorem fail {cause : ParseError.Cause} (hb : Blames c (c.error cause)) :
    Orderly (Reader.fail cause : Reader α) c :=
  giveUp hb fun _ _ hn hc => hc.error hn cause

/-- Behind a step that gives up, nothing is read any more. -/
theorem bind_error {g : α → Reader β} {e : ParseError} (hf : Orderly f c) (h : f c = .error e) :
    Orderly (f >>= g) c := by
  have hc : (f >>= g) c = .error e := Reader.bind_of_error h
  refine ⟨?_, ?_, ?_⟩
  · intro x d h'
    cases hc.symm.trans h'
  · intro e' h'
    cases hc.symm.trans h'
    exact hf.error e h
  · intro n c' hn hcc'
    rw [hc] at hn ⊢
    have ha := hf.steady n c' (by rwa [h]) hcc'
    rw [h] at ha
    generalize ho : f c' = o at ha
    cases ha with
    | error =>
      rw [Reader.bind_of_error ho]
      exact .error e

/-- Behind a step that reads something, the next step is taken from the place that it leads to. -/
theorem bind_ok {g : α → Reader β} {x : α} {d : Cursor} (hf : Orderly f c)
    (h : f c = .ok (x, d)) (hg : Orderly (g x) d) : Orderly (f >>= g) c := by
  have hc : (f >>= g) c = g x d := Reader.bind_of_ok h
  obtain ⟨ts, ht⟩ := hf.ok x d h
  refine ⟨?_, ?_, ?_⟩
  · intro y d' h'
    obtain ⟨us, hu⟩ := hg.ok y d' (hc.symm.trans h')
    exact ⟨_, ht.trans hu⟩
  · intro e h'
    obtain ⟨us, d', hu, hd'⟩ := hg.error e (hc.symm.trans h')
    exact ⟨_, d', ht.trans hu, hd'⟩
  · intro n c' hn hcc'
    rw [hc] at hn ⊢
    -- the first step has looked no further ahead than the second one
    have hreach : reach (f c) ≤ n := by
      rw [h]
      exact Nat.le_trans hg.position_le_reach hn
    have ha := hf.steady n c' hreach hcc'
    rw [h] at ha
    generalize ho : f c' = o at ha
    cases ha with
    | ok _ hd =>
      rw [Reader.bind_of_ok ho]
      exact hg.steady n _ hn hd

/-- Two steps in good order are so one behind the other. -/
theorem bind {g : α → Reader β} (hf : Orderly f c)
    (hg : ∀ x d, f c = .ok (x, d) → Orderly (g x) d) : Orderly (f >>= g) c := by
  cases h : f c with
  | error e => exact hf.bind_error h
  | ok p => exact hf.bind_ok h (hg p.1 p.2 h)

/-- A step that only looks at the next token. -/
theorem look {γ : Type} {l : Reader γ} {v : Cursor → γ} (hl : ∀ c, l c = .ok (v c, c))
    (hv : ∀ n c', c.position ≤ n → c.AgreesTo n c' → v c' = v c) {g : γ → Reader α}
    (hg : Orderly (g (v c)) c) : Orderly (l >>= g) c := by
  have hrun (c : Cursor) : (l >>= g) c = g (v c) c := Reader.bind_of_ok (hl c)
  refine ⟨?_, ?_, ?_⟩
  · rw [hrun]
    exact hg.ok
  · rw [hrun]
    exact hg.error
  · intro n c' hn hc
    rw [hrun] at hn ⊢
    rw [hrun, hv n c' (Nat.le_trans hg.position_le_reach hn) hc]
    exact hg.steady n c' hn hc

theorem next {g : Token → Reader α} (hg : Orderly (g c.token) c) : Orderly (Reader.next >>= g) c :=
  look (fun _ => rfl) (fun _ _ hn hc => hc.token hn) hg

theorem kind {g : Kind → Reader α} (hg : Orderly (g c.kind) c) : Orderly (Reader.kind >>= g) c :=
  look (fun _ => rfl) (fun _ _ hn hc => hc.kind hn) hg

/-- To skip a token that is not the end of the input. -/
theorem skip {k : Kind} (h : c.kind = k) (hk : k ≠ .endOfInput) : Orderly Reader.skip c := by
  refine ⟨?_, ?_, ?_⟩
  · intro x d ho
    cases ho
    exact ⟨_, .skip h hk⟩
  · intro e ho
    cases ho
  · intro n c' hn hc
    have hpos : c.skip.position ≤ n := hn
    rw [Cursor.position_skip h hk] at hpos
    exact .ok () (hc.skip (by omega) h hk)

theorem skip_bind {k : Kind} {g : Unit → Reader α} (h : c.kind = k) (hk : k ≠ .endOfInput)
    (hg : Orderly (g ()) c.skip) : Orderly (Reader.skip >>= g) c := by
  refine (skip h hk).bind fun _ d h => ?_
  cases h
  exact hg

end Orderly

namespace Phrase

variable (c : Cursor)

/-! ## Phrases without parts -/

/-- A token of a kind that is expected: any other one is at fault. -/
theorem expect_orderly {k : Kind} (hk : k ≠ .endOfInput) : Orderly (reading (expect · k)) c := by
  rw [reading_expect]
  refine .kind ?_
  split
  · next h => exact .skip h hk
  · exact .unexpected c

/-- A literal that denotes nothing is a number. -/
theorem isNumber_of_literalOf? {t : Token} (h : literalOf? t = none) :
    t.kind = .integer ∨ t.kind = .decimal := by
  unfold literalOf? at h
  split at h
  · next hk => exact .inl hk
  · next hk => exact .inr hk
  · cases h
  · split at h
    · cases h
    · split at h
      · cases h
      · cases h

/-- A literal: a token that does not look like one is at fault, and so is a number out of range. -/
theorem literal_orderly : Orderly (reading literal) c := by
  rw [reading_literal]
  refine .next ?_
  split
  · next hl =>
    have hk : c.kind ≠ .endOfInput := by
      intro hk
      have hk' : c.token.kind = .endOfInput := hk
      simp [LooksLiteral, IsKeyword, hk'] at hl
    split
    · exact .skip_bind rfl hk (.pure _ _)
    · next h => exact .fail (.literal (isNumber_of_literalOf? h))
  · exact .unexpected c

/-- A bound of a slice, which may be missing, but must be in range. -/
theorem bound_orderly : Orderly (reading bound) c := by
  rw [reading_bound]
  refine .next ?_
  split
  · next hk =>
    split
    · split
      · exact .skip_bind hk (by decide) (.pure _ _)
      · exact .fail (.literal (.inl hk))
    · exact .fail (.literal (.inl hk))
  · exact .pure none c

theorem stepBound_orderly : Orderly (reading stepBound) c := by
  rw [reading_stepBound]
  refine .kind ?_
  split
  · next hk => exact .skip_bind hk (by decide) (bound_orderly _)
  · exact .pure none c

/-- An index, or the bounds of a slice. -/
theorem indexOrSlice_orderly : Orderly (reading indexOrSlice) c := by
  rw [reading_indexOrSlice]
  refine .bind (bound_orderly c) fun start c₁ _ => .kind ?_
  split
  · next hk =>
    refine .skip_bind hk (by decide) ?_
    refine .bind (bound_orderly _) fun stop c₂ _ => ?_
    exact .bind (stepBound_orderly c₂) fun _ _ _ => .pure _ _
  · split
    · exact .pure _ _
    · exact .unexpected _

theorem dotted_orderly : Orderly (reading dotted) c := by
  rw [reading_dotted]
  refine .next ?_
  split
  · next hk => exact .skip_bind hk (by decide) (.pure _ _)
  · next hk => exact .skip_bind hk (by decide) (.pure _ _)
  · exact .unexpected c

theorem eq_of_operand {c d : Cursor} {a : Anchor} {ss : List Segment} {e : Expr}
    (h : Program.operand a ss c = .ok (e, d)) : c = d := by
  unfold Program.operand at h
  cases ho : operand c a ss with
  | error _ =>
    rw [ho] at h
    cases h
  | ok _ =>
    rw [ho] at h
    cases h
    rfl

/-- An embedded query as an operand: it is at fault if a segment of it is not singular. -/
theorem operand_orderly {a : Anchor} {ss : List Segment}
    (h : ss.all Segment.isSingular = false →
      Blames c ⟨.nonSingular, c.last.text, c.position - 1⟩) : Orderly (Program.operand a ss) c := by
  -- Whether the query is singular does not depend on the place, so each case is one plain step.
  by_cases hs : ss.all Segment.isSingular = true
  · have hx : Program.operand a ss = (pure (.single a ss) : Reader Expr) := by
      funext c
      rw [Program.operand, operand, if_pos hs]
      rfl
    rw [hx]
    exact .pure _ c
  · have hx : Program.operand a ss =
        fun c => .error ⟨.nonSingular, c.last.text, c.position - 1⟩ := by
      funext c
      rw [Program.operand, operand, if_neg hs]
      rfl
    rw [hx]
    refine .giveUp (h (eq_false_of_ne_true hs)) fun n c' _ hc => ?_
    rw [hc.position, Cursor.last, Cursor.last, hc.before]

/-! ## Phrases with parts -/

-- The induction is that of the functions: on the number of tokens left, and on the rank of the
-- function. A test hands on to its own program for literals, so from there on ranks are one higher.
mutual

/-- Segments. Each of them is read from fewer tokens than are left here. -/
theorem segments_orderly (c : Cursor) : Orderly (reading segments) c := by
  rw [reading_segments]
  refine .kind ?_
  split
  · next hk =>
    have hc := Cursor.size_skip_lt hk (by decide)
    refine .skip_bind hk (by decide) (.bind (selection_orderly c.skip) fun ss c₁ h => ?_)
    have h₁ := size_le_of_reading h
    exact .bind (segments_orderly c₁) fun _ _ _ => .pure _ _
  · next hk =>
    have hc := Cursor.size_skip_lt hk (by decide)
    refine .skip_bind hk (by decide) (.bind (dotted_orderly c.skip) fun s c₁ h => ?_)
    have h₁ := size_le_of_reading h
    exact .bind (segments_orderly c₁) fun _ _ _ => .pure _ _
  · next hk =>
    have hc := Cursor.size_skip_lt hk (by decide)
    refine .skip_bind hk (by decide) (.kind ?_)
    split
    · next hk' =>
      have hc' := Cursor.size_skip_lt hk' (by decide)
      refine .skip_bind hk' (by decide)
        (.bind (selection_orderly c.skip.skip) fun ss c₁ h => ?_)
      have h₁ := size_le_of_reading h
      exact .bind (segments_orderly c₁) fun _ _ _ => .pure _ _
    · refine .bind (dotted_orderly c.skip) fun s c₁ h => ?_
      have h₁ := size_le_of_reading h
      exact .bind (segments_orderly c₁) fun _ _ _ => .pure _ _
  · exact .pure _ c
termination_by 6 * c.size

/-- Selectors between brackets, the first of which must be there. -/
theorem selection_orderly (c : Cursor) : Orderly (reading selection) c := by
  rw [reading_selection]
  refine .bind (selector_orderly c) fun s c₁ h => ?_
  have h₁ := size_le_of_reading h
  exact .bind (moreSelectors_orderly c₁) fun _ _ _ => .pure _ _
termination_by 6 * c.size + 1

/-- What follows a selector is a comma with another one, or the closing bracket. -/
theorem moreSelectors_orderly (c : Cursor) : Orderly (reading moreSelectors) c := by
  rw [reading_moreSelectors]
  refine .kind ?_
  split
  · next hk =>
    have hc := Cursor.size_skip_lt hk (by decide)
    refine .skip_bind hk (by decide) (.bind (selector_orderly c.skip) fun s c₁ h => ?_)
    have h₁ := size_le_of_reading h
    exact .bind (moreSelectors_orderly c₁) fun _ _ _ => .pure _ _
  · next hk => exact .skip_bind hk (by decide) (.pure _ _)
  · exact .unexpected c
termination_by 6 * c.size

/-- A selector, which is told by its first token. -/
theorem selector_orderly (c : Cursor) : Orderly (reading selector) c := by
  rw [reading_selector]
  refine .kind ?_
  split
  · next hk => exact .next (.skip_bind hk (by decide) (.pure _ _))
  · next hk => exact .skip_bind hk (by decide) (.pure _ _)
  · exact indexOrSlice_orderly c
  · exact indexOrSlice_orderly c
  · next hk =>
    have hc := Cursor.size_skip_lt hk (by decide)
    refine .skip_bind hk (by decide) ?_
    exact .bind (disjunction_orderly c.skip) fun _ _ _ => .pure _ _
  · exact .unexpected c
termination_by 6 * c.size

theorem disjunction_orderly (c : Cursor) : Orderly (reading disjunction) c := by
  rw [reading_disjunction]
  refine .bind (conjunction_orderly c) fun e c₁ h => ?_
  have h₁ := size_le_of_reading h
  exact moreDisjuncts_orderly e c₁
termination_by 6 * c.size + 4

/-- What follows a disjunct, taken together from the left. -/
theorem moreDisjuncts_orderly (left : Expr) (c : Cursor) :
    Orderly (reading (moreDisjuncts left)) c := by
  rw [reading_moreDisjuncts]
  refine .kind ?_
  split
  · next hk =>
    have hc := Cursor.size_skip_lt hk (by decide)
    refine .skip_bind hk (by decide) (.bind (conjunction_orderly c.skip) fun e c₁ h => ?_)
    have h₁ := size_le_of_reading h
    exact moreDisjuncts_orderly _ c₁
  · exact .pure left c
termination_by 6 * c.size

theorem conjunction_orderly (c : Cursor) : Orderly (reading conjunction) c := by
  rw [reading_conjunction]
  refine .bind (test_orderly c) fun e c₁ h => ?_
  have h₁ := size_le_of_reading h
  exact moreConjuncts_orderly e c₁
termination_by 6 * c.size + 3

/-- What follows a conjunct, taken together from the left. -/
theorem moreConjuncts_orderly (left : Expr) (c : Cursor) :
    Orderly (reading (moreConjuncts left)) c := by
  rw [reading_moreConjuncts]
  refine .kind ?_
  split
  · next hk =>
    have hc := Cursor.size_skip_lt hk (by decide)
    refine .skip_bind hk (by decide) (.bind (test_orderly c.skip) fun e c₁ h => ?_)
    have h₁ := size_le_of_reading h
    exact moreConjuncts_orderly _ c₁
  · exact .pure left c
termination_by 6 * c.size

/-- A literal is no test by itself: without an operator behind it, the next token is at fault. -/
theorem literalTest_orderly (c : Cursor) : Orderly Program.literalTest c := by
  rw [Program.literalTest]
  refine .bind (literal_orderly c) fun e c₁ h => .kind ?_
  have h₁ := size_le_of_reading h
  split
  · exact compared_orderly e c₁
  · exact .unexpected c₁
termination_by 6 * c.size + 1

/-- A test, which is told by its first token. -/
theorem test_orderly (c : Cursor) : Orderly (reading test) c := by
  rw [reading_test]
  refine .kind ?_
  split
  · next hk =>
    have hc := Cursor.size_skip_lt hk (by decide)
    refine .skip_bind hk (by decide) ?_
    exact .bind (negated_orderly c.skip) fun _ _ _ => .pure _ _
  · next hk =>
    have hc := Cursor.size_skip_lt hk (by decide)
    exact .skip_bind hk (by decide) (parenthesized_orderly c.skip)
  · next hk =>
    have hc := Cursor.size_skip_lt hk (by decide)
    have hb := Cursor.before_skip hk (by decide)
    exact .skip_bind hk (by decide) (queryTest_orderly c.skip (.root hk) hb)
  · next hk =>
    have hc := Cursor.size_skip_lt hk (by decide)
    have hb := Cursor.before_skip hk (by decide)
    exact .skip_bind hk (by decide) (queryTest_orderly c.skip (.current hk) hb)
  · next hk =>
    refine .next ?_
    split
    · exact literalTest_orderly c
    · have hc := Cursor.size_skip_lt hk (by decide)
      refine .skip_bind hk (by decide) (.bind (call_orderly _ c.skip) fun e c₁ h => ?_)
      have h₁ := size_le_of_reading h
      exact compared_orderly e c₁
  · exact literalTest_orderly c
termination_by 6 * c.size + 2

/-- An embedded query, and the comparison that may follow. -/
theorem queryTest_orderly (c : Cursor) {t : Token} {a : Anchor} {b : List Token}
    (ht : IsAnchor t a) (hb : c.before = t :: b) : Orderly (reading (queryTest a)) c := by
  rw [reading_queryTest]
  refine .bind (segments_orderly c) fun ss c₁ h => .kind ?_
  have hs := reading_eq_ok_iff.mp h
  have h₁ := hs.size_le
  split
  · next hop =>
    refine .bind (operand_orderly c₁ fun hsing => .operand ht hb hs hsing (.inr hop)) ?_
    intro left d hd
    obtain rfl := eq_of_operand hd
    exact compared_orderly left c₁
  · exact .pure _ c₁
termination_by 6 * c.size + 1

/-- The comparison behind an operand. The operator is what makes a query that is not singular a
fault. -/
theorem compared_orderly (left : Expr) (c : Cursor) : Orderly (reading (compared left)) c := by
  rw [reading_compared]
  refine .kind ?_
  split
  · next op ho =>
    have hk := comparison?_ne_endOfInput ho
    have hc := Cursor.size_skip_lt rfl hk
    have hop : c.skip.last.kind.isComparison = true := by
      rw [Cursor.last, Cursor.before_skip rfl hk]
      exact isComparison_iff.mpr ⟨op, ho⟩
    exact .skip_bind rfl hk (.bind (comparable_orderly c.skip hop) fun _ _ _ => .pure _ _)
  · exact .pure left c
termination_by 6 * c.size

/-- An operand behind the comparison operator. -/
theorem comparable_orderly (c : Cursor) (hop : c.last.kind.isComparison = true) :
    Orderly (reading comparable) c := by
  rw [reading_comparable]
  refine .kind ?_
  split
  · next hk =>
    have hc := Cursor.size_skip_lt hk (by decide)
    have hb := Cursor.before_skip hk (by decide)
    refine .skip_bind hk (by decide) (.bind (segments_orderly c.skip) fun ss c₁ h => ?_)
    exact operand_orderly c₁ fun hsing =>
      .operand (.root hk) hb (reading_eq_ok_iff.mp h) hsing (.inl hop)
  · next hk =>
    have hc := Cursor.size_skip_lt hk (by decide)
    have hb := Cursor.before_skip hk (by decide)
    refine .skip_bind hk (by decide) (.bind (segments_orderly c.skip) fun ss c₁ h => ?_)
    exact operand_orderly c₁ fun hsing =>
      .operand (.current hk) hb (reading_eq_ok_iff.mp h) hsing (.inl hop)
  · next hk =>
    refine .next ?_
    split
    · exact literal_orderly c
    · have hc := Cursor.size_skip_lt hk (by decide)
      exact .skip_bind hk (by decide) (call_orderly _ c.skip)
  · exact literal_orderly c
termination_by 6 * c.size

/-- What follows an exclamation mark: no literal and no comparison. -/
theorem negated_orderly (c : Cursor) : Orderly (reading negated) c := by
  rw [reading_negated]
  refine .kind ?_
  split
  · next hk =>
    have hc := Cursor.size_skip_lt hk (by decide)
    exact .skip_bind hk (by decide) (parenthesized_orderly c.skip)
  · next hk =>
    have hc := Cursor.size_skip_lt hk (by decide)
    refine .skip_bind hk (by decide) ?_
    exact .bind (segments_orderly c.skip) fun _ _ _ => .pure _ _
  · next hk =>
    have hc := Cursor.size_skip_lt hk (by decide)
    refine .skip_bind hk (by decide) ?_
    exact .bind (segments_orderly c.skip) fun _ _ _ => .pure _ _
  · next hk =>
    refine .next ?_
    split
    · exact .unexpected c
    · have hc := Cursor.size_skip_lt hk (by decide)
      exact .skip_bind hk (by decide) (call_orderly _ c.skip)
  · exact .unexpected c
termination_by 6 * c.size

/-- A disjunction up to a closing parenthesis. -/
theorem parenthesized_orderly (c : Cursor) : Orderly (reading parenthesized) c := by
  rw [reading_parenthesized]
  refine .bind (disjunction_orderly c) fun e c₁ _ => ?_
  exact .bind (expect_orderly c₁ (by decide)) fun _ _ _ => .pure _ _
termination_by 6 * c.size + 5

/-- A call, whose parenthesis must follow the name of the function. -/
theorem call_orderly (function : String) (c : Cursor) : Orderly (reading (call function)) c := by
  rw [reading_call]
  refine .kind ?_
  split
  · next hk =>
    have hc := Cursor.size_skip_lt hk (by decide)
    refine .skip_bind hk (by decide) (.kind ?_)
    split
    · next hk' => exact .skip_bind hk' (by decide) (.pure _ _)
    · refine .bind (argument_orderly c.skip) fun e c₁ h => ?_
      have h₁ := size_le_of_reading h
      exact .bind (moreArguments_orderly c₁) fun _ _ _ => .pure _ _
  · exact .unexpected c
termination_by 6 * c.size

theorem moreArguments_orderly (c : Cursor) : Orderly (reading moreArguments) c := by
  rw [reading_moreArguments]
  refine .kind ?_
  split
  · next hk =>
    have hc := Cursor.size_skip_lt hk (by decide)
    refine .skip_bind hk (by decide) (.bind (argument_orderly c.skip) fun e c₁ h => ?_)
    have h₁ := size_le_of_reading h
    exact .bind (moreArguments_orderly c₁) fun _ _ _ => .pure _ _
  · next hk => exact .skip_bind hk (by decide) (.pure _ _)
  · exact .unexpected c
termination_by 6 * c.size

/-- An argument, which starts with a literal or is a disjunction. -/
theorem argument_orderly (c : Cursor) : Orderly (reading argument) c := by
  rw [reading_argument]
  refine .next ?_
  split
  · refine .bind (literal_orderly c) fun e c₁ h => ?_
    have h₁ := size_le_of_reading h
    exact compared_orderly e c₁
  · exact disjunction_orderly c
termination_by 6 * c.size + 5

end

end Phrase

/-! ## Queries -/

/-- A query without its mark: it starts with the root sign and ends with the input. -/
theorem unmarkedQuery_orderly (c : Cursor) : Orderly Program.unmarkedQuery c := by
  refine .kind ?_
  split
  · next hk =>
    refine .skip_bind hk (by decide) ?_
    refine .bind (Phrase.segments_orderly c.skip) fun ss d _ => .kind ?_
    split
    · exact .pure _ d
    · exact .unexpected d
  · next hk => exact .fail (.missingRoot hk)

theorem query_orderly (c : Cursor) : Orderly Program.query c := by
  refine .kind ?_
  split
  · next hk => exact .skip_bind hk (by decide) (unmarkedQuery_orderly c.skip)
  · exact unmarkedQuery_orderly c

end JsonPath.Query
