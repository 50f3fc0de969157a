import JsonPath.Proofs.Grammar.Canonical
import JsonPath.Proofs.Grammar.Completeness
import JsonPath.Proofs.Regrouping

/-!
# Reading the texts of operands

A literal, a call and an embedded query are told apart by their first token.
-/

namespace JsonPath.Query

open JsonPath.Text JsonPath.Token Grammar Phrase

variable {c c' d : Cursor}

/-! ## Literals, calls and embedded queries -/

/-- The name of a function does not look like a literal. -/
theorem not_looksLiteral_of_isFunctionName {t : Token} (h : IsFunctionName t) :
    ¬ LooksLiteral t := by
  have ho : Opens t (.call "" []) := h.opens
  exact fun hl => nomatch ho.looksLiteral_iff.mp hl

/-- Neither `$` nor `@` looks like a literal. -/
theorem not_looksLiteral_of_isAnchor {t : Token} {a : Anchor} (h : IsAnchor t a) :
    ¬ LooksLiteral t :=
  fun hl => nomatch (h.opens (e := .nodes a []) rfl).looksLiteral_iff.mp hl

theorem kind_ne_of_looksLiteral (h : LooksLiteral c.token) :
    c.kind ≠ .openParen ∧ c.kind ≠ .negation := by
  rcases h with h | h | h | ⟨h, -⟩ <;>
    exact ⟨fun hk => (nomatch hk.symm.trans h), fun hk => (nomatch hk.symm.trans h)⟩

/-- No simple expression starts with a literal. -/
theorem not_simpleRead_of_looksLiteral {t : Expr} (h : LooksLiteral c.token) :
    ¬ SimpleRead c t d := by
  intro ht
  cases ht with
  | paren hk => exact (kind_ne_of_looksLiteral h).1 hk
  | call hf => exact not_looksLiteral_of_isFunctionName hf h
  | query ha => exact not_looksLiteral_of_isAnchor ha h

/-- A token is a literal of one value only. -/
theorem Grammar.IsLiteral.unique {t : Token} {e e' : Expr} (h : IsLiteral t e)
    (h' : IsLiteral t e') : e = e' :=
  Option.some.inj ((isLiteral_iff.mp h).2.symm.trans (isLiteral_iff.mp h').2)

theorem Grammar.IsAnchor.unique {t : Token} {a b : Anchor} (h : IsAnchor t a)
    (h' : IsAnchor t b) : a = b := by
  cases h with
  | root hk =>
    cases h' with
    | root => rfl
    | current hk' => exact nomatch hk.symm.trans hk'
  | current hk =>
    cases h' with
    | root hk' => exact nomatch hk.symm.trans hk'
    | current => rfl

theorem not_isFunctionName_of_isAnchor {t : Token} {a : Anchor} (h : IsAnchor t a) :
    ¬ IsFunctionName t := by
  intro hf
  cases h with
  | root hk => exact nomatch hk.symm.trans hf.1
  | current hk => exact nomatch hk.symm.trans hf.1

theorem kind_ne_openParen_of_isAnchor {a : Anchor} (h : IsAnchor c.token a) :
    c.kind ≠ .openParen := by
  intro hp
  cases h with
  | root hk => cases hk.symm.trans hp
  | current hk => cases hk.symm.trans hp

theorem kind_ne_negation_of_isAnchor {a : Anchor} (h : IsAnchor c.token a) :
    c.kind ≠ .negation := by
  intro hn
  cases h with
  | root hk => exact nomatch hk.symm.trans hn
  | current hk => exact nomatch hk.symm.trans hn

/-- Behind `$` or `@` the simple expression that is read is an embedded query with the segments that
follow. -/
theorem simpleRead_of_query_iff {a : Anchor} {ss₀ : List Segment} {t : Expr} {ok : Prop}
    (ha : IsAnchor c.token a)
    (hs : ∀ ss d, Reads (Phrase.segments c.skip) ss d ↔ ok ∧ ss = ss₀ ∧ d = c') :
    SimpleRead c t d ↔ ok ∧ t = .nodes a ss₀ ∧ d = c' := by
  refine ⟨?_, ?_⟩
  · intro ht
    cases ht with
    | paren hk => exact absurd hk (kind_ne_openParen_of_isAnchor ha)
    | call hf => exact absurd hf (not_isFunctionName_of_isAnchor ha)
    | query ha' hss =>
      obtain ⟨hok, rfl, rfl⟩ := (hs _ _).mp hss
      rw [ha.unique ha']
      exact ⟨hok, rfl, rfl⟩
  · rintro ⟨hok, rfl, rfl⟩
    exact .query ha ((hs _ _).mpr ⟨hok, rfl, rfl⟩)

/-- Behind the name of a function the simple expression that is read is a call. -/
theorem simpleRead_of_call_iff {e₀ t : Expr} {ok : Prop} (hf : IsFunctionName c.token)
    (hcall : ∀ x d, Reads (call c.token.text c.skip) x d ↔ ok ∧ x = e₀ ∧ d = c') :
    SimpleRead c t d ↔ ok ∧ t = e₀ ∧ d = c' := by
  rw [← hcall]
  refine ⟨?_, ?_⟩
  · intro ht
    cases ht with
    | paren hk => cases hf.1.symm.trans hk
    | call _ he => exact he
    | query ha => exact absurd hf (not_isFunctionName_of_isAnchor ha)
  · exact fun h => .call hf h

/-- What is read where an operand of a comparison is written. -/
structure ReadsOperand (e : Expr) (c c' : Cursor) : Prop where
  comparable_iff : ∀ x d, Reads (comparable c) x d ↔ e.isReadable = true ∧ x = e.reread ∧ d = c'
  simple : ∀ t d, SimpleRead c t d → d = c'
  kind_ne_negation : c.kind ≠ .negation
  kind_ne_openParen : c.kind ≠ .openParen

/-- A literal is reread as itself. -/
theorem Grammar.IsLiteral.reread {t : Token} {e : Expr} (h : IsLiteral t e) : e.reread = e := by
  cases h <;> rfl

theorem Grammar.IsLiteral.isReadable {t : Token} {e : Expr} (h : IsLiteral t e) :
    e.isReadable = Bool.true := by
  cases h <;> rfl

theorem Grammar.IsLiteral.standsAlone {t : Token} {e : Expr} (h : IsLiteral t e) :
    e.standsAlone = Bool.true := by
  cases h <;> rfl

/-- A literal that is written is read again as an operand. -/
theorem readsOperand_of_literal {u : Token} {e : Expr} (hl : IsLiteral u e)
    (ht : c.Through [u] c') : ReadsOperand e c c' := by
  have hlit : IsLiteral c.token e := ht.uncons.1 ▸ hl
  have hlooks : LooksLiteral c.token := (isLiteral_iff.mp hlit).1
  obtain ⟨hparen, hnegation⟩ := kind_ne_of_looksLiteral hlooks
  refine ⟨fun x d => ?_, fun t d h => absurd h (not_simpleRead_of_looksLiteral hlooks), hnegation,
    hparen⟩
  rw [reads_comparable_iff, hl.reread, ht.eq_skip]
  refine ⟨?_, ?_⟩
  · intro hx
    cases hx with
    | literal hx => exact ⟨hl.isReadable, hx.unique hlit, rfl⟩
    | call hf => exact absurd hlooks (not_looksLiteral_of_isFunctionName hf)
    | query ha => exact absurd hlooks (not_looksLiteral_of_isAnchor ha)
  · rintro ⟨-, rfl, rfl⟩
    exact .literal hlit

/-- A call is read again as an operand, if its arguments are. -/
theorem readsOperand_of_call {f : String} {es : List Expr} (hf : IsFunctionName c.token)
    (hcall : ∀ x d, Reads (call c.token.text c.skip) x d ↔
      areReadableArguments es = true ∧ x = .call f (rereadExprs es) ∧ d = c') :
    ReadsOperand (.call f es) c c' := by
  have hk : c.kind = .name := hf.1
  refine ⟨fun x d => ?_, fun t d h => ((simpleRead_of_call_iff hf hcall).mp h).2.2,
    hk ▸ by decide, hk ▸ by decide⟩
  rw [reads_comparable_iff]
  refine Iff.trans ?_ (hcall x d)
  refine ⟨?_, ?_⟩
  · intro hx
    cases hx with
    | literal hx =>
      exact absurd (isLiteral_iff.mp hx).1 (not_looksLiteral_of_isFunctionName hf)
    | call _ he => exact he
    | query ha => exact absurd hf (not_isFunctionName_of_isAnchor ha)
  · exact fun h => .call hf h

/-- An embedded query is read again as an operand if it is singular and its segments are read again.
-/
theorem readsOperand_of_query {a : Anchor} {ss : List Segment} (ha : IsAnchor c.token a)
    (hs : ∀ xs d, Reads (Phrase.segments c.skip) xs d ↔
      areReadableSegments ss = true ∧ xs = rereadSegments ss ∧ d = c') :
    ReadsOperand (.single a ss) c c' := by
  refine ⟨fun x d => ?_, fun t d h => ((simpleRead_of_query_iff ha hs).mp h).2.2,
    kind_ne_negation_of_isAnchor ha, kind_ne_openParen_of_isAnchor ha⟩
  rw [reads_comparable_iff, Expr.isReadable, Bool.and_eq_true]
  refine ⟨?_, ?_⟩
  · intro hx
    cases hx with
    | literal hx => exact absurd (isLiteral_iff.mp hx).1 (not_looksLiteral_of_isAnchor ha)
    | call hf => exact absurd hf (not_isFunctionName_of_isAnchor ha)
    | query ha' hss hsing =>
      obtain ⟨hok, rfl, rfl⟩ := (hs _ _).mp hss
      rw [ha.unique ha']
      exact ⟨⟨hsing, hok⟩, rfl, rfl⟩
  · rintro ⟨⟨hsing, hok⟩, rfl, rfl⟩
    exact .query ha ((hs _ _).mpr ⟨hok, rfl, rfl⟩) hsing

/-- What stands between parentheses is read as the disjunction in it: a closing parenthesis is no
comparison operator. -/
theorem reads_parenthesized_of_disjunction {c₁ : Cursor} {e₀ t : Expr} {ok : Prop}
    (hk : c₁.kind = .closeParen)
    (hd : ∀ x d, comparison? d.kind = none → (Reads (disjunction c) x d ↔ ok ∧ x = e₀ ∧ d = c₁)) :
    Reads (parenthesized c) t d ↔ ok ∧ t = .paren e₀ ∧ d = c₁.skip := by
  rw [reads_parenthesized_iff]
  refine ⟨?_, ?_⟩
  · rintro ⟨x, c₂, hx, hk', rfl, rfl⟩
    obtain ⟨hok, rfl, rfl⟩ := (hd x c₂ (hk' ▸ rfl)).mp hx
    exact ⟨hok, rfl, rfl⟩
  · rintro ⟨hok, rfl, rfl⟩
    exact ⟨e₀, c₁, (hd _ _ (hk ▸ rfl)).mpr ⟨hok, rfl, rfl⟩, hk, rfl, rfl⟩

/-- Behind an opening parenthesis the simple expression that is read is what stands between
parentheses. -/
theorem simpleRead_of_paren_iff {e₀ t : Expr} {ok : Prop} (hk : c.kind = .openParen)
    (h : ∀ t d, Reads (parenthesized c.skip) t d ↔ ok ∧ t = e₀ ∧ d = c') :
    SimpleRead c t d ↔ ok ∧ t = e₀ ∧ d = c' := by
  rw [← h]
  refine ⟨?_, ?_⟩
  · intro ht
    cases ht with
    | paren _ he => exact he
    | call hf => cases hf.1.symm.trans hk
    | query ha => exact absurd hk (kind_ne_openParen_of_isAnchor ha)
  · exact fun h => .paren hk h

end JsonPath.Query
