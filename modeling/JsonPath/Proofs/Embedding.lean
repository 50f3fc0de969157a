import JsonPath.Proofs.Grammar.Decision

/-!
# The queries embedded in a query

`embeddings` lists every query that is embedded in another at any depth, together with where it
stands: whether it is itself an operand of a comparison, and whether it stands for its single node
or for all of them. In what is read from a text both go together (`isPlaced_of_ofBytes`): exactly
the operands stand for single nodes, and they are queries that find no more than one.
-/

namespace JsonPath.Query

/-- A query that is embedded in an expression. -/
structure Embedding where
  /-- whether it is an operand of a comparison -/
  isOperand : Bool
  /-- whether it stands for its single node -/
  isSingle : Bool
  anchor : Anchor
  segments : List Segment

/-- Whether an operator compares its operands. -/
def Operator.isCompare : Operator → Bool
  | .compare _ => true
  | _ => false

mutual

/-- The queries embedded in a selector. -/
def Selector.embeddings : Selector → List Embedding
  | .filter e => e.embeddings false
  | _ => []

/-- The queries embedded in a segment. -/
def Segment.embeddings : Segment → List Embedding
  | .dot _ s => s.embeddings
  | .brackets _ ss => selectorEmbeddings ss

/-- The queries embedded in selectors. -/
def selectorEmbeddings : List Selector → List Embedding
  | [] => []
  | s :: ss => s.embeddings ++ selectorEmbeddings ss

/-- The queries embedded in segments. -/
def segmentEmbeddings : List Segment → List Embedding
  | [] => []
  | s :: ss => s.embeddings ++ segmentEmbeddings ss

/-- The queries embedded in an expression, which may itself be one and an operand. -/
def Expr.embeddings (isOperand : Bool) : Expr → List Embedding
  | .single a ss => ⟨isOperand, true, a, ss⟩ :: segmentEmbeddings ss
  | .nodes a ss => ⟨isOperand, false, a, ss⟩ :: segmentEmbeddings ss
  | .binary op l r => l.embeddings op.isCompare ++ r.embeddings op.isCompare
  | .not e => e.embeddings false
  | .paren e => e.embeddings false
  | .call _ es => argumentEmbeddings es
  | _ => []

/-- The queries embedded in the arguments of a call. -/
def argumentEmbeddings : List Expr → List Embedding
  | [] => []
  | e :: es => e.embeddings false ++ argumentEmbeddings es

end

/-- The queries embedded in a query. -/
def embeddings (q : Query) : List Embedding := segmentEmbeddings q.segments

/-! ## Where embedded queries stand -/

/-- The query stands for its single node exactly if it is an operand, and then each of its segments
picks at most one child. -/
structure Embedding.IsPlaced (m : Embedding) : Prop where
  isSingle_eq : m.isSingle = m.isOperand
  isSingular : m.isOperand = true → m.segments.all Segment.isSingular = true

namespace Grammar

open Token

/-- No query is embedded in a literal. -/
theorem IsLiteral.embeddings_eq {t : Token} {e : Expr} (h : IsLiteral t e) (isOperand : Bool) :
    e.embeddings isOperand = [] := by
  cases h <;> rfl

mutual

/-- Queries embedded in segments are placed; the theorems that follow say so of each kind of phrase,
by one induction on all of them. -/
theorem IsSegments.isPlaced {ts ss} (h : IsSegments ts ss) :
    ∀ m ∈ segmentEmbeddings ss, m.IsPlaced := by
  match h with
  | .nil => exact nofun
  | .cons head tail => exact List.forall_mem_append.mpr ⟨head.isPlaced, tail.isPlaced⟩

/-- A segment embeds what its selectors do. -/
theorem IsSegment.isPlaced {ts s} (h : IsSegment ts s) : ∀ m ∈ s.embeddings, m.IsPlaced := by
  match h with
  | .brackets h => exact h.isPlaced
  | .dot _ (.wildcard _) => exact nofun
  | .dot _ (.name _) => exact nofun
  | .descendantBrackets _ h => exact h.isPlaced
  | .descendantDot _ (.wildcard _) => exact nofun
  | .descendantDot _ (.name _) => exact nofun

theorem IsSelection.isPlaced {ts ss} (h : IsSelection ts ss) :
    ∀ m ∈ selectorEmbeddings ss, m.IsPlaced := by
  match h with
  | .mk _ h _ => exact h.isPlaced

theorem IsSelectors.isPlaced {ts ss} (h : IsSelectors ts ss) :
    ∀ m ∈ selectorEmbeddings ss, m.IsPlaced := by
  match h with
  | .one h => exact List.forall_mem_append.mpr ⟨h.isPlaced, nofun⟩
  | .more h _ tail => exact List.forall_mem_append.mpr ⟨h.isPlaced, tail.isPlaced⟩

/-- A selector embeds what its filter does. -/
theorem IsSelector.isPlaced {ts s} (h : IsSelector ts s) : ∀ m ∈ s.embeddings, m.IsPlaced := by
  match h with
  | .name _ => exact nofun
  | .wildcard _ => exact nofun
  | .index _ => exact nofun
  | .slice _ _ _ _ => exact nofun
  | .filter _ h => exact h.isPlaced

/-- A disjunction embeds queries as tests. -/
theorem IsDisjunction.isPlaced {ts e} (h : IsDisjunction ts e) :
    ∀ m ∈ e.embeddings false, m.IsPlaced := by
  match h with
  | .one h => exact h.isPlaced
  | .more hl _ hr => exact List.forall_mem_append.mpr ⟨hl.isPlaced, hr.isPlaced⟩

theorem IsConjunction.isPlaced {ts e} (h : IsConjunction ts e) :
    ∀ m ∈ e.embeddings false, m.IsPlaced := by
  match h with
  | .one h => exact h.isPlaced
  | .more hl _ hr => exact List.forall_mem_append.mpr ⟨hl.isPlaced, hr.isPlaced⟩

/-- A test embeds a query by itself, or as an operand of a comparison. -/
theorem IsTest.isPlaced {ts e} (h : IsTest ts e) : ∀ m ∈ e.embeddings false, m.IsPlaced := by
  match h with
  | .not _ h => exact h.isPlaced
  | .simple h => exact h.isPlaced
  | .comparison hl _ hr => exact List.forall_mem_append.mpr ⟨hl.isPlaced, hr.isPlaced⟩

/-- A simple expression embeds a query by itself. -/
theorem IsSimple.isPlaced {ts e} (h : IsSimple ts e) : ∀ m ∈ e.embeddings false, m.IsPlaced := by
  match h with
  | .paren _ h _ => exact h.isPlaced
  | .call h => exact h.isPlaced
  | .query _ h => exact List.forall_mem_cons.mpr ⟨⟨rfl, nofun⟩, h.isPlaced⟩

/-- A call embeds queries as its arguments. -/
theorem IsCall.isPlaced {ts f es} (h : IsCall ts f es) :
    ∀ m ∈ argumentEmbeddings es, m.IsPlaced := by
  match h with
  | .none _ _ _ => exact nofun
  | .some _ _ h _ => exact h.isPlaced

theorem IsArguments.isPlaced {ts es} (h : IsArguments ts es) :
    ∀ m ∈ argumentEmbeddings es, m.IsPlaced := by
  match h with
  | .one h => exact List.forall_mem_append.mpr ⟨h.isPlaced, nofun⟩
  | .more h _ tail => exact List.forall_mem_append.mpr ⟨h.isPlaced, tail.isPlaced⟩

/-- An argument is a query by itself, or an operand of a comparison. -/
theorem IsArgument.isPlaced {ts e} (h : IsArgument ts e) :
    ∀ m ∈ e.embeddings false, m.IsPlaced := by
  match h with
  | .literal h =>
    rw [h.embeddings_eq]
    exact nofun
  | .comparison hl _ hr =>
    refine List.forall_mem_append.mpr ⟨?_, hr.isPlaced⟩
    rw [hl.embeddings_eq]
    exact nofun
  | .expr _ h => exact h.isPlaced

/-- A query that is an operand is singular. -/
theorem IsComparable.isPlaced {ts e} (h : IsComparable ts e) :
    ∀ m ∈ e.embeddings true, m.IsPlaced := by
  match h with
  | .literal h =>
    rw [h.embeddings_eq]
    exact nofun
  | .call h => exact h.isPlaced
  | .query _ h hs => exact List.forall_mem_cons.mpr ⟨⟨rfl, fun _ => hs⟩, h.isPlaced⟩

end

end Grammar

/-- In what is read, every embedded query stands where a query of its form belongs. -/
theorem isPlaced_of_ofBytes {octets : List UInt8} {q : Query} (h : ofBytes octets = .ok q) :
    ∀ m ∈ q.embeddings, m.IsPlaced := by
  have hq : ∀ {ts}, Grammar.IsUnmarked ts q → ∀ m ∈ q.embeddings, m.IsPlaced := by
    intro ts hq
    cases hq with
    | mk _ hss => exact hss.isPlaced
  have h := (ofTokens_tokenize_eq_ok_iff octets q).mp h
  generalize Token.tokenize octets = ts at h
  cases h with
  | unmarked h => exact hq h
  | marked _ h => exact hq h

end JsonPath.Query
