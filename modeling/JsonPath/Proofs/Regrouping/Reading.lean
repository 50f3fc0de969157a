import JsonPath.Proofs.Grammar.Decision
import JsonPath.Proofs.Regrouping.Arguments
import JsonPath.Proofs.Regrouping.Selectors

/-!
# Reading the text of a built query

The tokens that are written for a built query are read as `reread` says, and only if the query is
readable. From a front on, the tokens of an expression take the loops to the chain that `regroup`
says (`Expr.readsAlong`), however the expression is nested.
-/

namespace JsonPath.Query

open JsonPath.Text JsonPath.Token Grammar Phrase

variable {c c' d : Cursor}

/-! ## Built queries -/

mutual

/-- A selector is read from its own tokens if it can be read, as what it is reread as; the theorems
that follow say so of each part of a query. -/
theorem Selector.reads_tokens {s : Selector} {c c' : Cursor} (hs : s.isSpellable = true)
    (hb : s.isBuilt = true) (ht : c.Through s.tokens c') (hc' : EndsSelector c'.kind)
    (x : Selector) (d : Cursor) (hd : EndsSelector d.kind) :
    Reads (selector c) x d ↔ s.isReadable = true ∧ x = s.reread ∧ d = c' := by
  match s with
  | .name n => exact (reads_selector_of_literalToken ht).trans (iff_and_self.mpr fun _ => rfl)
  | .shorthand n => exact (reads_selector_of_literalToken ht).trans (iff_and_self.mpr fun _ => rfl)
  | .wildcard => exact (reads_selector_of_asterisk ht).trans (iff_and_self.mpr fun _ => rfl)
  | .index i => exact reads_selector_of_index ht hc'
  | .slice s => exact reads_selector_of_slice ht hc'
  | .filter e =>
    have he : ∀ x, Reads (disjunction c.skip) x d ↔
        e.isReadable = true ∧ x = e.reread ∧ d = c' := fun x =>
      (e.readsAlong hs hb ht.uncons.2 hc'.endsDisjunction.toEndsTest).disjunction_iff
        hc'.endsDisjunction hd.endsDisjunction.comparison
    rw [reads_selector_of_questionMark ht.kind_eq]
    refine ⟨?_, ?_⟩
    · rintro ⟨x, hx, rfl⟩
      obtain ⟨hok, rfl, rfl⟩ := (he x).mp hx
      exact ⟨hok, rfl, rfl⟩
    · rintro ⟨hok, rfl, rfl⟩
      exact ⟨e.reread, (he _).mpr ⟨hok, rfl, rfl⟩, rfl⟩

/-- Selectors between brackets are read if there is one and each can be read. -/
theorem reads_selection_of_tokens {ss : List Selector} {c c' : Cursor}
    (hs : areSpellableSelectors ss = true) (hb : areBuiltSelectors ss = true)
    (ht : c.Through (commaTokens (selectorTokens ss) ++ [sign .closeBracket ']']) c')
    (xs : List Selector) (d : Cursor) : Reads (Phrase.selection c) xs d ↔
      (!ss.isEmpty && areReadableSelectors ss) = true ∧ xs = rereadSelectors ss ∧ d = c' := by
  match ss with
  | [] =>
    have hk : c.kind = .closeBracket := ht.kind_eq
    refine iff_of_false ?_ fun h => nomatch h.1
    intro hx
    obtain ⟨x, c₁, _, hx, -⟩ := reads_selection_iff.mp hx
    cases reads_selector_iff.mp hx with
    | name hk' => exact nomatch hk.symm.trans hk'
    | wildcard hk' => exact nomatch hk.symm.trans hk'
    | filter hk' => exact nomatch hk.symm.trans hk'
    | indexOrSlice hk' =>
      rcases hk' with hk' | hk' <;> exact nomatch hk.symm.trans hk'
  | [s] =>
    rw [areSpellableSelectors, Bool.and_eq_true] at hs
    rw [areBuiltSelectors, Bool.and_eq_true] at hb
    rw [reads_selection_one ht fun _ ht₁ hc₁ => s.reads_tokens hs.1 hb.1 ht₁ hc₁]
    simp only [areReadableSelectors, List.isEmpty_cons, Bool.not_false, Bool.true_and,
      Bool.and_true, rereadSelectors]
  | s :: s' :: ss =>
    rw [areSpellableSelectors, Bool.and_eq_true] at hs
    rw [areBuiltSelectors, Bool.and_eq_true] at hb
    have hne : selectorTokens (s' :: ss) ≠ [] := List.cons_ne_nil _ _
    rw [selectorTokens, commaTokens_cons hne, List.append_assoc, List.cons_append] at ht
    rw [reads_selection_cons ht (fun _ ht₁ hc₁ => s.reads_tokens hs.1 hb.1 ht₁ hc₁)
      fun _ ht₁ => reads_selection_of_tokens hs.2 hb.2 ht₁]
    simp only [areReadableSelectors, List.isEmpty_cons, Bool.not_false, Bool.true_and,
      Bool.and_eq_true, rereadSelectors]

/-- Segments are read if each of them can be read. -/
theorem reads_segments_of_tokens {ss : List Segment} {c c' : Cursor}
    (hs : areSpellableSegments ss = true) (hb : areBuiltSegments ss = true)
    (ht : c.Through (segmentsTokens ss) c') (hc' : EndsSegments c'.kind)
    (xs : List Segment) (d : Cursor) : Reads (Phrase.segments c) xs d ↔
      areReadableSegments ss = true ∧ xs = rereadSegments ss ∧ d = c' := by
  match ss with
  | [] =>
    obtain rfl := ht.eq_of_nil
    rw [reads_segments_iff]
    refine ⟨?_, ?_⟩
    · intro hx
      cases hx with
      | brackets hk => exact absurd hk hc'.openBracket
      | dot hk => exact absurd hk hc'.dot
      | descendantBrackets hk => exact absurd hk hc'.dotDot
      | descendantDot hk => exact absurd hk hc'.dotDot
      | none => exact ⟨rfl, rfl, rfl⟩
    · rintro ⟨-, rfl, rfl⟩
      exact .none hc'.openBracket hc'.dot hc'.dotDot
  | s :: ss =>
    rw [areSpellableSegments, Bool.and_eq_true] at hs
    rw [areBuiltSegments, Bool.and_eq_true] at hb
    rw [areReadableSegments, Bool.and_eq_true]
    obtain ⟨c₁, ht₁, ht₂⟩ := ht.split
    exact s.reads_segments hs.1 hb.1 ht₁ (reads_segments_of_tokens hs.2 hb.2 ht₂ hc') xs d

/-- A segment is read, and then what follows it. -/
theorem Segment.reads_segments {s : Segment} {c c₁ c' : Cursor} {more₀ : List Segment} {ok : Prop}
    (hs : s.isSpellable = true) (hb : s.isBuilt = true) (ht : c.Through s.tokens c₁)
    (hm : ∀ xs d, Reads (Phrase.segments c₁) xs d ↔ ok ∧ xs = more₀ ∧ d = c')
    (xs : List Segment) (d : Cursor) : Reads (Phrase.segments c) xs d ↔
      (s.isReadable = true ∧ ok) ∧ xs = s.reread :: more₀ ∧ d = c' := by
  match s with
  | .dot reach (.shorthand n) =>
    rw [reads_segments_of_dotted ht (.name rfl) hm]
    exact and_congr_left' (iff_and_self.mpr fun _ => rfl)
  | .dot reach .wildcard =>
    rw [reads_segments_of_dotted ht (.wildcard rfl) hm]
    exact and_congr_left' (iff_and_self.mpr fun _ => rfl)
  | .dot reach (.name n) =>
    exact reads_segments_of_bracketed ht (fun _ ht₀ _ _ => reads_selection_one ht₀
      fun _ ht₁ hc₁ => Selector.reads_tokens (s := .name n) hs hb ht₁ hc₁) hm
  | .dot reach (.index i) =>
    exact reads_segments_of_bracketed ht (fun _ ht₀ _ _ => reads_selection_one ht₀
      fun _ ht₁ hc₁ => Selector.reads_tokens (s := .index i) hs hb ht₁ hc₁) hm
  | .dot reach (.slice s) =>
    exact reads_segments_of_bracketed ht (fun _ ht₀ _ _ => reads_selection_one ht₀
      fun _ ht₁ hc₁ => Selector.reads_tokens (s := .slice s) hs hb ht₁ hc₁) hm
  | .dot reach (.filter e) =>
    exact reads_segments_of_bracketed ht (fun _ ht₀ _ _ => reads_selection_one ht₀
      fun _ ht₁ hc₁ => Selector.reads_tokens (s := .filter e) hs hb ht₁ hc₁) hm
  | .brackets reach ss =>
    exact reads_segments_of_bracketed ht (fun _ ht₀ => reads_selection_of_tokens hs hb ht₀) hm

/-- What is built as an operand is read as one. -/
theorem Expr.readsOperand {e : Expr} {c c' : Cursor} (hs : e.isSpellable = true)
    (hb : e.isBuilt .operand = true) (ht : c.Through e.tokens c') (hc' : EndsSegments c'.kind) :
    ReadsOperand e c c' := by
  match e with
  | .integer n => exact readsOperand_of_literal (isLiteral_integerToken n) ht
  | .float x => exact readsOperand_of_literal (isLiteral_float hs) ht
  | .string s => exact readsOperand_of_literal (isLiteral_literalToken s) ht
  | .bool true => exact readsOperand_of_literal (.true rfl rfl) ht
  | .bool false => exact readsOperand_of_literal (.false rfl rfl) ht
  | .null => exact readsOperand_of_literal (.null rfl rfl) ht
  | .call f es =>
    have hf : IsFunctionName c.token := by
      rw [Expr.isBuilt, Bool.and_eq_true, Bool.not_eq_true'] at hb
      exact ht.uncons.1 ▸ ⟨rfl, hb.1⟩
    refine readsOperand_of_call hf fun x d => ?_
    rw [Expr.isSpellable, Bool.and_eq_true] at hs
    rw [Expr.isBuilt, Bool.and_eq_true] at hb
    rw [ht.uncons.1]
    exact reads_call_of_arguments hb.2 ht.uncons.2 fun hne =>
      readsArguments_of_tokens hne hs.2 hb.2 ht.uncons.2.uncons.2
  | .single a ss =>
    rw [Expr.isBuilt, Bool.and_eq_true] at hb
    exact readsOperand_of_query (ht.uncons.1 ▸ .canonical a) fun xs d =>
      reads_segments_of_tokens hs hb.2 ht.uncons.2 hc' xs d

/-- What is built as a test is read along its text, part by part. -/
theorem Expr.readsAlong {e : Expr} {c c' : Cursor} (hs : e.isSpellable = true)
    (hb : e.isBuilt .test = true) (ht : c.Through e.tokens c') (hc' : EndsTest c'.kind) :
    ReadsAlong e c c' := by
  -- Connectives are read part by part. What is left are simple expressions, and each is one step of
  -- a chain.
  match e with
  | .binary .or l r =>
    rw [Expr.isSpellable, Bool.and_eq_true] at hs
    rw [Expr.isBuilt, Bool.and_eq_true, Bool.and_eq_true] at hb
    obtain ⟨c₁, ht₁, ht₂⟩ := ht.split
    have hk : c₁.kind = .disjunction := ht₂.kind_eq
    have hl := l.readsAlong hs.1 hb.1.2 ht₁ (hk ▸ endsConjunction_disjunction.toEndsTest)
    exact .or hk hl (r.readsAlong hs.2 hb.2 ht₂.uncons.2 hc')
  | .binary .and l r =>
    rw [Expr.isSpellable, Bool.and_eq_true] at hs
    rw [Expr.isBuilt, Bool.and_eq_true, Bool.and_eq_true] at hb
    obtain ⟨c₁, ht₁, ht₂⟩ := ht.split
    have hk : c₁.kind = .conjunction := ht₂.kind_eq
    have hl := l.readsAlong hs.1 hb.1.2 ht₁ (hk ▸ endsTest_conjunction)
    exact .and hk hl (r.readsAlong hs.2 hb.2 ht₂.uncons.2 hc')
  | .not e =>
    rw [Expr.isBuilt, Bool.and_eq_true] at hb
    exact .not ht.kind_eq (e.readsAlong hs hb.2 ht.uncons.2 hc')
  | .binary (.compare op) l r =>
    rw [Expr.isSpellable, Bool.and_eq_true] at hs
    rw [Expr.isBuilt, Bool.and_eq_true, Bool.and_eq_true] at hb
    obtain ⟨c₁, ht₁, ht₂⟩ := ht.split
    have ho : comparison? c₁.kind = some op := ht₂.kind_eq ▸ comparison?_kind_token op
    have hl := l.readsOperand hs.1 hb.1.2 ht₁ (endsSegments_of_comparison ho)
    exact .compare ho hl (r.readsOperand hs.2 hb.2 ht₂.uncons.2 hc'.toEndsSegments)
  | .paren e =>
    have hk : c.kind = .openParen := ht.kind_eq
    rw [Expr.isBuilt, Bool.and_eq_true] at hb
    rw [Expr.tokens] at ht
    obtain ⟨c₁, ht₁, ht₂⟩ := ht.uncons.2.split
    have hk₁ : c₁.kind = .closeParen := ht₂.kind_eq
    have hends : EndsDisjunction c₁.kind := hk₁ ▸ endsDisjunction_closeParen
    have he := e.readsAlong hs hb.2 ht₁ hends.toEndsTest
    refine .of_simple rfl (fun _ => rfl) nofun (hk ▸ nofun)
      (fun h => (kind_ne_of_looksLiteral h).1 hk) hc'.comparison fun t d => ?_
    refine simpleRead_of_paren_iff hk fun t d => ?_
    rw [ht₂.eq_skip]
    exact reads_parenthesized_of_disjunction hk₁ fun x d hd => he.disjunction_iff hends hd
  | .call f es =>
    have hk : c.kind = .name := ht.kind_eq
    rw [Expr.isSpellable, Bool.and_eq_true] at hs
    rw [Expr.isBuilt, Bool.and_eq_true, Bool.not_eq_true'] at hb
    have hf : IsFunctionName c.token := ht.uncons.1 ▸ ⟨rfl, hb.1⟩
    refine .of_simple rfl (fun _ => rfl) nofun (hk ▸ nofun)
      (not_looksLiteral_of_isFunctionName hf) hc'.comparison fun t d => ?_
    refine simpleRead_of_call_iff hf fun x d => ?_
    rw [ht.uncons.1]
    exact reads_call_of_arguments hb.2 ht.uncons.2 fun hne =>
      readsArguments_of_tokens hne hs.2 hb.2 ht.uncons.2.uncons.2
  | .nodes a ss =>
    rw [Expr.isBuilt, Bool.and_eq_true] at hb
    have ha : IsAnchor c.token a := ht.uncons.1 ▸ .canonical a
    refine .of_simple rfl (fun _ => rfl) nofun (kind_ne_negation_of_isAnchor ha)
      (not_looksLiteral_of_isAnchor ha) hc'.comparison fun t d => ?_
    exact simpleRead_of_query_iff ha
      (reads_segments_of_tokens hs hb.2 ht.uncons.2 hc'.toEndsSegments)

/-- Arguments are read if each of them stands alone and can be read. -/
theorem readsArguments_of_tokens {es : List Expr} {c c' : Cursor} (hne : es ≠ [])
    (hs : areSpellableExprs es = true) (hb : areBuiltArguments es = true)
    (ht : c.Through (commaTokens (exprTokens es) ++ [sign .closeParen ')']) c')
    (xs : List Expr) (d : Cursor) : ReadsArguments c xs d ↔
      areReadableArguments es = true ∧ xs = rereadExprs es ∧ d = c' := by
  match es with
  | [e] =>
    rw [areSpellableExprs, Bool.and_eq_true] at hs
    rw [areBuiltArguments, Bool.and_eq_true] at hb
    obtain ⟨c₁, ht₁, ht₂⟩ := ht.split
    have hk : EndsArgument c₁.kind := .inr ht₂.kind_eq
    rw [readsArguments_of_argument (fun x d => reads_argument_of_isBuilt hs.1 hb.1 ht₁ hk
        fun hb => e.readsAlong hs.1 hb ht₁ hk.endsDisjunction.toEndsTest)
      fun _ _ => reads_moreArguments_of_closeParen ht₂]
    simp only [areReadableArguments, Bool.and_true, Bool.and_eq_true, and_true, rereadExprs]
    rfl
  | e :: e' :: es =>
    rw [areSpellableExprs, Bool.and_eq_true] at hs
    rw [areBuiltArguments, Bool.and_eq_true] at hb
    have hne : exprTokens (e' :: es) ≠ [] := List.cons_ne_nil _ _
    rw [exprTokens, commaTokens_cons hne, List.append_assoc, List.cons_append] at ht
    obtain ⟨c₁, ht₁, ht₂⟩ := ht.split
    have hk : c₁.kind = .comma := ht₂.kind_eq
    have hmore : ∀ xs d, Reads (moreArguments c₁) xs d ↔
        areReadableArguments (e' :: es) = true ∧ xs = rereadExprs (e' :: es) ∧ d = c' := by
      intro xs d
      rw [reads_moreArguments_of_comma_iff hk]
      exact readsArguments_of_tokens (List.cons_ne_nil _ _) hs.2 hb.2 ht₂.uncons.2 xs d
    rw [readsArguments_of_argument (fun x d => reads_argument_of_isBuilt hs.1 hb.1 ht₁ (.inl hk)
        fun hb => e.readsAlong hs.1 hb ht₁ (hk ▸ endsDisjunction_comma.toEndsTest)) hmore]
    rw [areReadableArguments.eq_2 e, Bool.and_eq_true (e.standsAlone && e.isReadable)]
    rfl

end

/-- The text of a built query is read exactly if the query is readable, and what it says is then
`reread`. -/
theorem ofText_toText_of_isBuilt {q q' : Query} (hq : q.isBuilt = true) :
    ofText q.toText = .ok q' ↔ areReadableSegments q.segments = true ∧ q' = q.reread := by
  rw [isBuilt, Bool.and_eq_true] at hq
  have hinside : ∀ t ∈ segmentsTokens q.segments, t.kind ≠ .endOfInput := by
    intro t ht
    have hmem : t ∈ lexemes (q.text.map some) := lexemes_text hq.1 ▸ List.mem_cons_of_mem _ ht
    exact (isInner_of_mem_lexemes hmem).ne_end
  have hroot : Cursor.kind ⟨[], sign .root '$' :: segmentsTokens q.segments ++ [endOfInput]⟩
    ≠ .byteOrderMark := nofun
  have ht : (⟨[sign .root '$'], segmentsTokens q.segments ++ [endOfInput]⟩ : Cursor).Through
      (segmentsTokens q.segments)
      ⟨(segmentsTokens q.segments).reverse ++ [sign .root '$'], [endOfInput]⟩ :=
    ⟨rfl, rfl, hinside⟩
  have hread := reads_segments_of_tokens hq.1 hq.2 ht endsSegments_endOfInput
  rw [ofText, ofBytes, tokenize_toText hq.1, ofTokens_eq_ok_iff_reads, if_neg hroot]
  refine ⟨?_, ?_⟩
  · rintro ⟨-, d, hs, -⟩
    obtain ⟨hr, hss, -⟩ := (hread _ _).mp hs
    obtain ⟨ss⟩ := q'
    exact ⟨hr, congrArg Query.mk hss⟩
  · rintro ⟨hr, rfl⟩
    exact ⟨rfl, _, (hread _ _).mpr ⟨hr, rfl, rfl⟩, rfl⟩

end JsonPath.Query
