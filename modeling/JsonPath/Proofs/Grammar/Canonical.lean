import JsonPath.Proofs.Spelling
import JsonPath.Proofs.Grammar

/-!
# Canonical tokens

The tokens that are written for a phrase are a phrase for the same part of a query. They need not be
those that it was read from: a literal can be spelled in several ways, and an empty step of a slice
leaves its colon behind.

The names of a phrase are those of its tokens, and the numbers that are read are finite, so whatever
is read can be spelled.
-/

namespace JsonPath.Query.Grammar

open JsonPath.Text JsonPath.Token

/-! ## Single tokens -/

/-- A float that is read from a text is finite. -/
theorem isFinite_of_float? {text : String} {x : Float} (h : Literal.float? text = some x) :
    Number.isFinite x = Bool.true := by
  unfold Literal.float? at h
  exact Number.isFinite_of_ofDecimal? h

/-- The token written for an integer is a literal of its value. -/
theorem isLiteral_integerToken (i : Int64) : IsLiteral (integerToken i) (.integer i) := by
  refine .integer rfl ?_
  rw [integerToken, String.toList_ofList, ofInteger_integer]

/-- The token written for a finite float is a literal of its value. -/
theorem isLiteral_float {x : Float} (h : Number.isFinite x = Bool.true) :
    IsLiteral ⟨.decimal, .ofList (literalLayout.float x)⟩ (.float x) :=
  .float rfl (literalLayout.float?_float h)

/-- The token written for a string is a literal of its value. -/
theorem isLiteral_literalToken (s : String) : IsLiteral (literalToken s) (.string s) := by
  have hs := IsLiteral.string (t := literalToken s) rfl
  rwa [literalToken, unescape_literalText] at hs

/-- What a literal denotes is written as one token, again a literal of it. -/
theorem IsLiteral.canonical {t : Token} {e : Expr} (h : IsLiteral t e) :
    ∃ u, e.tokens = [u] ∧ IsLiteral u e := by
  cases h with
  | integer => exact ⟨_, rfl, isLiteral_integerToken _⟩
  | float _ hv => exact ⟨_, rfl, isLiteral_float (isFinite_of_float? hv)⟩
  | string => exact ⟨_, rfl, isLiteral_literalToken _⟩
  | true => exact ⟨_, rfl, .true rfl rfl⟩
  | false => exact ⟨_, rfl, .false rfl rfl⟩
  | null => exact ⟨_, rfl, .null rfl rfl⟩

theorem IsIndex.canonical {t : Token} {i : Int64} (h : IsIndex t i) :
    IsIndex (integerToken i) i := by
  refine ⟨rfl, ?_, h.low, h.high⟩
  rw [integerToken, String.toList_ofList, ofInteger_integer]

/-- The tokens written for a bound of a slice are one. -/
theorem IsBound.canonical {ts : List Token} {b : Option Int64} (h : IsBound ts b) :
    IsBound (boundTokens b) b := by
  cases h with
  | absent => exact .absent
  | present h => exact .present h.canonical

/-- The tokens written for the step of a slice are one: a colon behind which no step stands is not
written again. -/
theorem IsStep.canonical {ts : List Token} {b : Option Int64} (h : IsStep ts b) :
    IsStep (stepTokens b) b := by
  cases h with
  | absent => exact .absent
  | present _ h =>
    cases h with
    | absent => exact .absent
    | present h => exact .present rfl (.present h.canonical)

theorem IsAnchor.canonical (a : Anchor) : IsAnchor a.token a := by
  cases a with
  | root => exact .root rfl
  | current => exact .current rfl

/-- The token written for a comparison operator is of its kind. -/
theorem comparison?_kind_token (c : Comparison) :
    Phrase.comparison? (Operator.compare c).token.kind = some c := by
  cases c <;> rfl

/-- A comma follows every part that is not the last. -/
theorem commaTokens_cons {t : List Token} {ts : List (List Token)} (h : ts ≠ []) :
    commaTokens (t :: ts) = t ++ sign .comma ',' :: commaTokens ts := by
  cases ts with
  | nil => exact absurd rfl h
  | cons u us => rfl

/-- At least one selector stands between brackets. -/
theorem IsSelectors.tokens_ne_nil {ts : List Token} {ss : List Selector} (h : IsSelectors ts ss) :
    selectorTokens ss ≠ [] := by
  cases h <;> exact List.cons_ne_nil _ _

theorem IsArguments.tokens_ne_nil {ts : List Token} {es : List Expr} (h : IsArguments ts es) :
    exprTokens es ≠ [] := by
  cases h <;> exact List.cons_ne_nil _ _

/-! ## Phrases with parts -/

mutual

/-- The tokens written for a row of segments are such a row; the theorems that follow say so of each
kind of phrase, by one induction on all of them. -/
theorem IsSegments.canonical {ts ss} (h : IsSegments ts ss) : IsSegments (segmentsTokens ss) ss := by
  match h with
  | .nil => exact .nil
  | .cons head tail => exact .cons head.canonical tail.canonical

theorem IsSegment.canonical {ts s} (h : IsSegment ts s) : IsSegment s.tokens s := by
  match h with
  | .brackets h => exact .brackets h.canonical
  | .dot hd (.wildcard _) => exact .dot rfl (.wildcard rfl)
  | .dot hd (.name _) => exact .dot rfl (.name rfl)
  | .descendantBrackets _ h => exact .descendantBrackets rfl h.canonical
  | .descendantDot _ (.wildcard _) => exact .descendantDot rfl (.wildcard rfl)
  | .descendantDot _ (.name _) => exact .descendantDot rfl (.name rfl)

/-- The selectors written between brackets are a selection. -/
theorem IsSelection.canonical {ts ss} (h : IsSelection ts ss) :
    IsSelection (bracketed (commaTokens (selectorTokens ss))) ss := by
  match h with
  | .mk _ h _ => exact .mk rfl h.canonical rfl

theorem IsSelectors.canonical {ts ss} (h : IsSelectors ts ss) :
    IsSelectors (commaTokens (selectorTokens ss)) ss := by
  match h with
  | .one h => exact .one h.canonical
  | .more h _ tail =>
    rw [selectorTokens, commaTokens_cons tail.tokens_ne_nil]
    exact .more h.canonical rfl tail.canonical

/-- The tokens written for a selector are one. -/
theorem IsSelector.canonical {ts s} (h : IsSelector ts s) : IsSelector s.tokens s := by
  match h with
  | .name (t := t) _ =>
    have hs := IsSelector.name (t := literalToken (Literal.unescape t.text)) rfl
    rwa [literalToken, unescape_literalText] at hs
  | .wildcard _ => exact .wildcard rfl
  | .index h => exact .index h.canonical
  | .slice h₁ _ h₂ h₃ => exact .slice h₁.canonical rfl h₂.canonical h₃.canonical
  | .filter _ h => exact .filter rfl h.canonical

/-- The tokens written for a disjunction are one. -/
theorem IsDisjunction.canonical {ts e} (h : IsDisjunction ts e) : IsDisjunction e.tokens e := by
  match h with
  | .one h => exact .one h.canonical
  | .more hl _ hr => exact .more hl.canonical rfl hr.canonical

/-- The tokens written for a conjunction are one, also where a single test stands for it. -/
theorem IsConjunction.canonical {ts e} (h : IsConjunction ts e) : IsConjunction e.tokens e := by
  match h with
  | .one h => exact .one h.canonical
  | .more hl _ hr => exact .more hl.canonical rfl hr.canonical

/-- The tokens written for a test are one: a comparison, a negation or a simple expression. -/
theorem IsTest.canonical {ts e} (h : IsTest ts e) : IsTest e.tokens e := by
  match h with
  | .not _ h => exact .not rfl h.canonical
  | .simple h => exact .simple h.canonical
  | .comparison hl _ hr =>
    exact .comparison hl.canonical (comparison?_kind_token _) hr.canonical

/-- The tokens written for a simple expression are one: its parentheses are written with it. -/
theorem IsSimple.canonical {ts e} (h : IsSimple ts e) : IsSimple e.tokens e := by
  match h with
  | .paren _ h _ => exact .paren rfl h.canonical rfl
  | .call h => exact .call h.canonical
  | .query (a := a) _ h => exact .query (.canonical a) h.canonical

/-- The tokens written for a call are a call of the same function. -/
theorem IsCall.canonical {ts f es} (h : IsCall ts f es) : IsCall (Expr.call f es).tokens f es := by
  match h with
  | .none hn _ _ => exact .none (n := ⟨.name, _⟩) ⟨rfl, hn.2⟩ rfl rfl
  | .some hn _ h _ => exact .some (n := ⟨.name, _⟩) ⟨rfl, hn.2⟩ rfl h.canonical rfl

theorem IsArguments.canonical {ts es} (h : IsArguments ts es) :
    IsArguments (commaTokens (exprTokens es)) es := by
  match h with
  | .one h => exact .one h.canonical
  | .more h _ tail =>
    rw [exprTokens, commaTokens_cons tail.tokens_ne_nil]
    exact .more h.canonical rfl tail.canonical

/-- The tokens written for an argument are one: a literal or a comparison of two of them, or else a
disjunction. -/
theorem IsArgument.canonical {ts e} (h : IsArgument ts e) : IsArgument e.tokens e := by
  match h with
  | .literal h =>
    obtain ⟨u, hu, hl⟩ := h.canonical
    rw [hu]
    exact .literal hl
  | .comparison hl _ hr =>
    obtain ⟨u, hu, hl⟩ := hl.canonical
    rw [Expr.tokens, hu]
    exact .comparison hl (comparison?_kind_token _) hr.canonical
  | .expr ht h =>
    -- Both lists of tokens start with a literal if the expression does.
    obtain ⟨_, _, heq, ho⟩ := h.exists_cons
    cases heq
    have hc := h.canonical
    obtain ⟨u, us, hu, ho'⟩ := hc.exists_cons
    rw [hu] at hc ⊢
    refine .expr ?_ hc
    rwa [ho'.looksLiteral_iff, ← ho.looksLiteral_iff]

/-- The tokens written for an operand of a comparison are one. -/
theorem IsComparable.canonical {ts e} (h : IsComparable ts e) : IsComparable e.tokens e := by
  match h with
  | .literal h =>
    obtain ⟨u, hu, hl⟩ := h.canonical
    rw [hu]
    exact .literal hl
  | .call h => exact .call h.canonical
  | .query (a := a) _ h hs => exact .query (.canonical a) h.canonical hs

end

/-! ## Names and numbers -/

/-- The tokens that are of the kind of names are names. -/
def HasNames (ts : List Token) : Prop :=
  ∀ t ∈ ts, t.kind = .name → isName t.text.toList = Bool.true

namespace HasNames

variable {t : Token} {ts us : List Token}

theorem head (h : HasNames (t :: ts)) (hk : t.kind = .name) : isName t.text.toList = Bool.true :=
  h t List.mem_cons_self hk

theorem tail (h : HasNames (t :: ts)) : HasNames ts :=
  fun u hu => h u (List.mem_cons_of_mem _ hu)

theorem left (h : HasNames (ts ++ us)) : HasNames ts :=
  fun t ht => h t (List.mem_append_left _ ht)

theorem right (h : HasNames (ts ++ us)) : HasNames us :=
  fun t ht => h t (List.mem_append_right _ ht)

end HasNames

/-- What a literal denotes can be spelled: a float that is read is finite. -/
theorem IsLiteral.isSpellable {t : Token} {e : Expr} (h : IsLiteral t e) :
    e.isSpellable = Bool.true := by
  cases h with
  | float _ hv => exact isFinite_of_float? hv
  | _ => rfl

mutual

/-- Segments that are read from names can be spelled, since their names are those of the tokens; the
theorems that follow say so of each kind of phrase. -/
theorem IsSegments.areSpellable {ts ss} (h : IsSegments ts ss) (hn : HasNames ts) :
    areSpellableSegments ss = Bool.true := by
  match h with
  | .nil => rfl
  | .cons head tail =>
    rw [areSpellableSegments, head.isSpellable hn.left, tail.areSpellable hn.right, Bool.and_self]

/-- A segment that is read can be spelled. -/
theorem IsSegment.isSpellable {ts s} (h : IsSegment ts s) (hn : HasNames ts) :
    s.isSpellable = Bool.true := by
  match h with
  | .brackets h => exact h.areSpellable hn
  | .dot _ (.wildcard _) => rfl
  | .dot _ (.name hk) => exact hn.tail.head hk
  | .descendantBrackets _ h => exact h.areSpellable hn.tail
  | .descendantDot _ (.wildcard _) => rfl
  | .descendantDot _ (.name hk) => exact hn.tail.head hk

theorem IsSelection.areSpellable {ts ss} (h : IsSelection ts ss) (hn : HasNames ts) :
    areSpellableSelectors ss = Bool.true := by
  match h with
  | .mk _ h _ => exact h.areSpellable hn.left.tail

theorem IsSelectors.areSpellable {ts ss} (h : IsSelectors ts ss) (hn : HasNames ts) :
    areSpellableSelectors ss = Bool.true := by
  match h with
  | .one h => rw [areSpellableSelectors, h.isSpellable hn, areSpellableSelectors, Bool.and_self]
  | .more h _ tail =>
    rw [areSpellableSelectors, h.isSpellable hn.left, tail.areSpellable hn.right.tail,
      Bool.and_self]

/-- A selector that is read can be spelled. -/
theorem IsSelector.isSpellable {ts s} (h : IsSelector ts s) (hn : HasNames ts) :
    s.isSpellable = Bool.true := by
  match h with
  | .name _ => rfl
  | .wildcard _ => rfl
  | .index _ => rfl
  | .slice _ _ _ _ => rfl
  | .filter _ h => exact h.isSpellable hn.tail

/-- A disjunction that is read can be spelled. -/
theorem IsDisjunction.isSpellable {ts e} (h : IsDisjunction ts e) (hn : HasNames ts) :
    e.isSpellable = Bool.true := by
  match h with
  | .one h => exact h.isSpellable hn
  | .more hl _ hr =>
    rw [Expr.isSpellable, hl.isSpellable hn.left, hr.isSpellable hn.right.tail, Bool.and_self]

theorem IsConjunction.isSpellable {ts e} (h : IsConjunction ts e) (hn : HasNames ts) :
    e.isSpellable = Bool.true := by
  match h with
  | .one h => exact h.isSpellable hn
  | .more hl _ hr =>
    rw [Expr.isSpellable, hl.isSpellable hn.left, hr.isSpellable hn.right.tail, Bool.and_self]

/-- A test that is read can be spelled. -/
theorem IsTest.isSpellable {ts e} (h : IsTest ts e) (hn : HasNames ts) :
    e.isSpellable = Bool.true := by
  match h with
  | .not _ h => exact h.isSpellable hn.tail
  | .simple h => exact h.isSpellable hn
  | .comparison hl _ hr =>
    rw [Expr.isSpellable, hl.isSpellable hn.left, hr.isSpellable hn.right.tail, Bool.and_self]

theorem IsSimple.isSpellable {ts e} (h : IsSimple ts e) (hn : HasNames ts) :
    e.isSpellable = Bool.true := by
  match h with
  | .paren _ h _ => exact h.isSpellable hn.left.tail
  | .call h => exact h.isSpellable hn
  | .query _ h => exact h.areSpellable hn.tail

/-- A call that is read can be spelled, since the name of its function is a name. -/
theorem IsCall.isSpellable {ts f es} (h : IsCall ts f es) (hn : HasNames ts) :
    (Expr.call f es).isSpellable = Bool.true := by
  match h with
  | .none hf _ _ => rw [Expr.isSpellable, hn.head hf.1, areSpellableExprs, Bool.and_self]
  | .some hf _ h _ =>
    rw [Expr.isSpellable, hn.head hf.1, h.areSpellable hn.tail.tail.left, Bool.and_self]

/-- Arguments that are read can be spelled. -/
theorem IsArguments.areSpellable {ts es} (h : IsArguments ts es) (hn : HasNames ts) :
    areSpellableExprs es = Bool.true := by
  match h with
  | .one h => rw [areSpellableExprs, h.isSpellable hn, areSpellableExprs, Bool.and_self]
  | .more h _ tail =>
    rw [areSpellableExprs, h.isSpellable hn.left, tail.areSpellable hn.right.tail, Bool.and_self]

theorem IsArgument.isSpellable {ts e} (h : IsArgument ts e) (hn : HasNames ts) :
    e.isSpellable = Bool.true := by
  match h with
  | .literal h => exact h.isSpellable
  | .comparison hl _ hr =>
    rw [Expr.isSpellable, hl.isSpellable, hr.isSpellable hn.tail.tail, Bool.and_self]
  | .expr _ h => exact h.isSpellable hn

/-- An operand that is read can be spelled. -/
theorem IsComparable.isSpellable {ts e} (h : IsComparable ts e) (hn : HasNames ts) :
    e.isSpellable = Bool.true := by
  match h with
  | .literal h => exact h.isSpellable
  | .call h => exact h.isSpellable hn
  | .query _ h _ => exact h.areSpellable hn.tail

end

end JsonPath.Query.Grammar
