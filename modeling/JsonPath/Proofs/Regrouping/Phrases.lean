import JsonPath.Proofs.Regrouping.Reading
import JsonPath.Proofs.Rereading

/-!
# What is read is built

In a phrase of the grammar every expression stands where expressions of its form belong. So a query
that is read from a text is built, and its own text says nothing else than the query: it is reread
as itself (`reread_of_ofBytes`).
-/

namespace JsonPath.Query

open JsonPath.Text JsonPath.Token Grammar

/-- What belongs where a test does may be an argument as well. -/
theorem Expr.isBuilt_argument {e : Expr} (h : e.isBuilt .test = true) :
    e.isBuilt .argument = true := by
  cases e with
  | binary op l r => cases op <;> exact h
  | not e => exact h
  | paren e => exact h
  | call f es => exact h
  | nodes a ss => exact h
  | _ => cases h

namespace Grammar

/-- A literal is built as an operand or an argument, but not as a test. -/
theorem IsLiteral.isBuilt {t : Token} {e : Expr} {role : Role} (h : IsLiteral t e)
    (hr : role ≠ .test) : e.isBuilt role = Bool.true := by
  have hne : (role != .test) = Bool.true := bne_iff_ne.mpr hr
  cases h <;> exact hne

mutual

/-- Segments that are read are built; the theorems that follow say so of each kind of phrase, by one
induction on all of them. -/
theorem IsSegments.areBuilt {ts ss} (h : IsSegments ts ss) : areBuiltSegments ss = Bool.true := by
  match h with
  | .nil => rfl
  | .cons head tail => rw [areBuiltSegments, head.isBuilt, tail.areBuilt, Bool.and_self]

/-- A segment that is read is built: behind a dot stands a name or an asterisk. -/
theorem IsSegment.isBuilt {ts s} (h : IsSegment ts s) : s.isBuilt = Bool.true := by
  match h with
  | .brackets h => exact h.areBuilt
  | .dot _ (.wildcard _) => rfl
  | .dot _ (.name _) => rfl
  | .descendantBrackets _ h => exact h.areBuilt
  | .descendantDot _ (.wildcard _) => rfl
  | .descendantDot _ (.name _) => rfl

/-- Selectors that are read between brackets are built. -/
theorem IsSelection.areBuilt {ts ss} (h : IsSelection ts ss) :
    areBuiltSelectors ss = Bool.true := by
  match h with
  | .mk _ h _ => exact h.areBuilt

theorem IsSelectors.areBuilt {ts ss} (h : IsSelectors ts ss) :
    areBuiltSelectors ss = Bool.true := by
  match h with
  | .one h => rw [areBuiltSelectors, h.isBuilt, areBuiltSelectors, Bool.and_self]
  | .more h _ tail => rw [areBuiltSelectors, h.isBuilt, tail.areBuilt, Bool.and_self]

/-- A selector that is read is built: its filter is a test. -/
theorem IsSelector.isBuilt {ts s} (h : IsSelector ts s) : s.isBuilt = Bool.true := by
  match h with
  | .name _ => rfl
  | .wildcard _ => rfl
  | .index _ => rfl
  | .slice _ _ _ _ => rfl
  | .filter _ h => exact h.isBuilt

/-- A disjunction that is read is built as a test. -/
theorem IsDisjunction.isBuilt {ts e} (h : IsDisjunction ts e) :
    e.isBuilt .test = Bool.true := by
  match h with
  | .one h => exact h.isBuilt
  | .more hl _ hr => rw [Expr.isBuilt, hl.isBuilt, hr.isBuilt]; rfl

theorem IsConjunction.isBuilt {ts e} (h : IsConjunction ts e) :
    e.isBuilt .test = Bool.true := by
  match h with
  | .one h => exact h.isBuilt
  | .more hl _ hr => rw [Expr.isBuilt, hl.isBuilt, hr.isBuilt]; rfl

/-- A test that is read is built as one. -/
theorem IsTest.isBuilt {ts e} (h : IsTest ts e) : e.isBuilt .test = Bool.true := by
  match h with
  | .not _ h => rw [Expr.isBuilt, h.isBuilt]; rfl
  | .simple h => exact h.isBuilt
  | .comparison hl _ hr => rw [Expr.isBuilt, hl.isBuilt, hr.isBuilt]; rfl

/-- A simple expression that is read is built as a test. -/
theorem IsSimple.isBuilt {ts e} (h : IsSimple ts e) : e.isBuilt .test = Bool.true := by
  match h with
  | .paren _ h _ => rw [Expr.isBuilt, h.isBuilt]; rfl
  | .call h => exact h.isBuilt .test
  | .query _ h => rw [Expr.isBuilt, h.areBuilt]; rfl

/-- A call that is read is built in any place. -/
theorem IsCall.isBuilt {ts f es} (h : IsCall ts f es) (role : Role) :
    (Expr.call f es).isBuilt role = Bool.true := by
  match h with
  | .none hf _ _ => rw [Expr.isBuilt, hf.2, areBuiltArguments]; rfl
  | .some hf _ h _ => rw [Expr.isBuilt, hf.2, h.areBuilt]; rfl

theorem IsArguments.areBuilt {ts es} (h : IsArguments ts es) :
    areBuiltArguments es = Bool.true := by
  match h with
  | .one h => rw [areBuiltArguments, h.isBuilt, areBuiltArguments, Bool.and_self]
  | .more h _ tail => rw [areBuiltArguments, h.isBuilt, tail.areBuilt, Bool.and_self]

/-- An argument that is read is built as one. -/
theorem IsArgument.isBuilt {ts e} (h : IsArgument ts e) : e.isBuilt .argument = Bool.true := by
  match h with
  | .literal h => exact h.isBuilt (by decide)
  | .comparison hl _ hr => rw [Expr.isBuilt, hl.isBuilt (by decide), hr.isBuilt]; rfl
  | .expr _ h => exact Expr.isBuilt_argument h.isBuilt

/-- An operand that is read is built as one. -/
theorem IsComparable.isBuilt {ts e} (h : IsComparable ts e) : e.isBuilt .operand = Bool.true := by
  match h with
  | .literal h => exact h.isBuilt (by decide)
  | .call h => exact h.isBuilt .operand
  | .query _ h _ => rw [Expr.isBuilt, h.areBuilt]; rfl

end

end Grammar

/-- What is read from octets is built, and reread as itself. -/
theorem reread_of_ofBytes {octets : List UInt8} {q : Query} (h : ofBytes octets = .ok q) :
    q.isBuilt = true ∧ q.reread = q := by
  obtain ⟨hspell, hphrase⟩ := spellable_of_ofBytes h
  have hb : q.isBuilt = true := by rw [isBuilt, hspell, hphrase.areBuilt, Bool.and_self]
  have hread := ofText_toText_of_isSegments hspell hphrase
  exact ⟨hb, ((ofText_toText_of_isBuilt hb).mp hread).2.symm⟩

end JsonPath.Query
