import JsonPath.Proofs.Grammar

/-!
# The tokens of a query

Each token of a phrase has its place in it, and a token of kind `unknown` has none. So in the text
of a query every token is known (`Grammar.IsQuery.known`).
-/

namespace JsonPath.Query.Grammar

open JsonPath.Token

/-- No token is of kind `unknown`. -/
def Known (ts : List Token) : Prop := ∀ t ∈ ts, t.kind ≠ .unknown

@[simp] theorem known_nil : Known [] := nofun

@[simp] theorem known_cons {t : Token} {ts : List Token} :
    Known (t :: ts) ↔ t.kind ≠ .unknown ∧ Known ts := List.forall_mem_cons

@[simp] theorem known_append {ts us : List Token} : Known (ts ++ us) ↔ Known ts ∧ Known us :=
  List.forall_mem_append

/-! ## Single tokens -/

/-- The token of a literal is known. -/
theorem IsLiteral.known {t : Token} {e : Expr} (h : IsLiteral t e) : t.kind ≠ .unknown := by
  cases h <;> simp [*]

/-- The tokens of a bound of a slice are known. -/
theorem IsBound.known {ts : List Token} {b : Option Int64} (h : IsBound ts b) : Known ts := by
  cases h with
  | absent => simp
  | present h => simp [h.kind]

/-- The tokens of the step of a slice are known. -/
theorem IsStep.known {ts : List Token} {b : Option Int64} (h : IsStep ts b) : Known ts := by
  cases h with
  | absent => simp
  | present hc h => simp [hc, h.known]

/-- What follows a dot is a known token. -/
theorem IsDotted.known {t : Token} {s : Selector} (h : IsDotted t s) : t.kind ≠ .unknown := by
  cases h <;> simp [*]

theorem IsAnchor.known {t : Token} {a : Anchor} (h : IsAnchor t a) : t.kind ≠ .unknown := by
  cases h <;> simp [*]

theorem IsFunctionName.known {t : Token} (h : IsFunctionName t) : t.kind ≠ .unknown := by
  simp [h.1]

/-- A token that is read as a comparison operator is known. -/
theorem known_of_comparison? {t : Token} {op : Comparison}
    (h : Phrase.comparison? t.kind = some op) : t.kind ≠ .unknown := by
  intro hk
  rw [hk] at h
  cases h

/-! ## Phrases with parts -/

mutual

/-- The tokens of a row of segments are known; the theorems that follow say so of each kind of
phrase, by one induction on all of them. -/
theorem IsSegments.known {ts ss} (h : IsSegments ts ss) : Known ts := by
  match h with
  | .nil => simp
  | .cons head tail => simp [head.known, tail.known]

/-- The tokens of a segment are known, its dots among them. -/
theorem IsSegment.known {ts s} (h : IsSegment ts s) : Known ts := by
  match h with
  | .brackets h => exact h.known
  | .dot hd h => simp [hd, h.known]
  | .descendantBrackets hd h => simp [hd, h.known]
  | .descendantDot hd h => simp [hd, h.known]

/-- The tokens between brackets are known, and the brackets with them. -/
theorem IsSelection.known {ts ss} (h : IsSelection ts ss) : Known ts := by
  match h with
  | .mk ho h hc => simp [ho, h.known, hc]

theorem IsSelectors.known {ts ss} (h : IsSelectors ts ss) : Known ts := by
  match h with
  | .one h => exact h.known
  | .more h hc tail => simp [h.known, hc, tail.known]

/-- The tokens of a selector are known. -/
theorem IsSelector.known {ts s} (h : IsSelector ts s) : Known ts := by
  match h with
  | .name hk => simp [hk]
  | .wildcard hk => simp [hk]
  | .index h => simp [h.kind]
  | .slice h₁ hc h₂ h₃ => simp [h₁.known, hc, h₂.known, h₃.known]
  | .filter hq h => simp [hq, h.known]

/-- The tokens of a disjunction are known. -/
theorem IsDisjunction.known {ts e} (h : IsDisjunction ts e) : Known ts := by
  match h with
  | .one h => exact h.known
  | .more hl hb hr => simp [hl.known, hb, hr.known]

/-- The tokens of a conjunction are known. -/
theorem IsConjunction.known {ts e} (h : IsConjunction ts e) : Known ts := by
  match h with
  | .one h => exact h.known
  | .more hl ha hr => simp [hl.known, ha, hr.known]

/-- The tokens of a test are known. -/
theorem IsTest.known {ts e} (h : IsTest ts e) : Known ts := by
  match h with
  | .not hn h => simp [hn, h.known]
  | .simple h => exact h.known
  | .comparison hl ho hr => simp [hl.known, known_of_comparison? ho, hr.known]

/-- The tokens of a simple expression are known. -/
theorem IsSimple.known {ts e} (h : IsSimple ts e) : Known ts := by
  match h with
  | .paren ho h hc => simp [ho, h.known, hc]
  | .call h => exact h.known
  | .query ht h => simp [ht.known, h.known]

/-- The tokens of a call are known. -/
theorem IsCall.known {ts f es} (h : IsCall ts f es) : Known ts := by
  match h with
  | .none hn ho hc => simp [hn.known, ho, hc]
  | .some hn ho h hc => simp [hn.known, ho, h.known, hc]

theorem IsArguments.known {ts es} (h : IsArguments ts es) : Known ts := by
  match h with
  | .one h => exact h.known
  | .more h hc tail => simp [h.known, hc, tail.known]

/-- The tokens of an argument are known. -/
theorem IsArgument.known {ts e} (h : IsArgument ts e) : Known ts := by
  match h with
  | .literal h => simp [h.known]
  | .comparison hl ho hr => simp [hl.known, known_of_comparison? ho, hr.known]
  | .expr _ h => exact h.known

theorem IsComparable.known {ts e} (h : IsComparable ts e) : Known ts := by
  match h with
  | .literal h => simp [h.known]
  | .call h => exact h.known
  | .query ht h _ => simp [ht.known, h.known]

end

/-! ## Queries -/

/-- The tokens of a query without its root are known. -/
theorem IsUnmarked.known {ts : List Token} {q : Query} (h : IsUnmarked ts q) : Known ts := by
  cases h with
  | mk hr h he => simp [hr, h.known, he]

/-- The tokens of a query are known. -/
theorem IsQuery.known {ts : List Token} {q : Query} (h : IsQuery ts q) : Known ts := by
  cases h with
  | unmarked h => exact h.known
  | marked hm h => simp [hm, h.known]

end JsonPath.Query.Grammar
