import JsonPath.Proofs.Regrouping.Phrases

/-!
# Selectors in brackets

A query lists selectors in brackets, in its segments and in the queries that are embedded in its
filters. Which selectors can be met there is settled by each selector alone: some text has it in
brackets if and only if its own tokens are a phrase for it and can be spelled
(`Selector.isParsed_iff`), or if the text of the selector between brackets is read as the selector
(`Selector.isParsed_iff_ofText`). The rest of the text it was met in does not matter, and how deep
in it neither.
-/

namespace JsonPath.Query

open JsonPath.Token Grammar

/-! ## Listing -/

mutual

/-- The selectors that the filter of a selector has in brackets. -/
def Selector.listed : Selector → List Selector
  | .filter e => e.listed
  | _ => []

/-- The selectors that a segment has in brackets, at any depth. -/
def Segment.listed : Segment → List Selector
  | .dot _ s => s.listed
  | .brackets _ ss => listedSelectors ss

/-- The selectors of a pair of brackets, and those in their filters. -/
def listedSelectors : List Selector → List Selector
  | [] => []
  | s :: ss => s :: (s.listed ++ listedSelectors ss)

/-- The selectors that segments have in brackets, at any depth. -/
def listedSegments : List Segment → List Selector
  | [] => []
  | s :: ss => s.listed ++ listedSegments ss

/-- The selectors that an expression has in brackets, at any depth. -/
def Expr.listed : Expr → List Selector
  | .binary _ l r => l.listed ++ r.listed
  | .not e => e.listed
  | .paren e => e.listed
  | .call _ es => listedExprs es
  | .single _ ss => listedSegments ss
  | .nodes _ ss => listedSegments ss
  | _ => []

/-- The selectors that expressions have in brackets, at any depth. -/
def listedExprs : List Expr → List Selector
  | [] => []
  | e :: es => e.listed ++ listedExprs es

end

/-- The selectors that a query has in brackets, at any depth. -/
def listed (q : Query) : List Selector := listedSegments q.segments

/-- Some text is read as a query with the selector in brackets. -/
def Selector.IsParsed (s : Selector) : Prop :=
  ∃ octets q, ofBytes octets = .ok q ∧ s ∈ q.listed

/-! ## Phrases -/

namespace Grammar

/-- Each of the selectors has a phrase, with names that are names. -/
def HavePhrases (ss : List Selector) : Prop := ∀ s ∈ ss, ∃ ts, IsSelector ts s ∧ HasNames ts

theorem havePhrases_nil : HavePhrases [] := nofun

/-- Selectors of two lists have phrases if those of each do. -/
theorem HavePhrases.append {ss ss' : List Selector} (h : HavePhrases ss) (h' : HavePhrases ss') :
    HavePhrases (ss ++ ss') := List.forall_mem_append.mpr ⟨h, h'⟩

/-- A selector that is read from a phrase, and others. -/
theorem IsSelector.havePhrases_cons {ts : List Token} {s : Selector} {ss : List Selector}
    (h : IsSelector ts s) (hn : HasNames ts) (hss : HavePhrases ss) : HavePhrases (s :: ss) :=
  List.forall_mem_cons.mpr ⟨⟨ts, h, hn⟩, hss⟩

theorem IsLiteral.listed_eq_nil {t : Token} {e : Expr} (h : IsLiteral t e) : e.listed = [] := by
  cases h <;> rfl

mutual

/-- What segments list has phrases; the theorems that follow say so of each kind of phrase, by one
induction on all of them. -/
theorem IsSegments.havePhrases {ts ss} (h : IsSegments ts ss) (hn : HasNames ts) :
    HavePhrases (listedSegments ss) := by
  match h with
  | .nil => exact havePhrases_nil
  | .cons head tail => exact (head.havePhrases hn.left).append (tail.havePhrases hn.right)

/-- A segment lists the selectors of its brackets, and a dot lists none. -/
theorem IsSegment.havePhrases {ts s} (h : IsSegment ts s) (hn : HasNames ts) :
    HavePhrases s.listed := by
  match h with
  | .brackets h => exact h.havePhrases hn
  | .dot _ (.wildcard _) => exact havePhrases_nil
  | .dot _ (.name _) => exact havePhrases_nil
  | .descendantBrackets _ h => exact h.havePhrases hn.tail
  | .descendantDot _ (.wildcard _) => exact havePhrases_nil
  | .descendantDot _ (.name _) => exact havePhrases_nil

theorem IsSelection.havePhrases {ts ss} (h : IsSelection ts ss) (hn : HasNames ts) :
    HavePhrases (listedSelectors ss) := by
  match h with
  | .mk _ h _ => exact h.havePhrases hn.left.tail

/-- Each of several selectors has a phrase, with those in its filter. -/
theorem IsSelectors.havePhrases {ts ss} (h : IsSelectors ts ss) (hn : HasNames ts) :
    HavePhrases (listedSelectors ss) := by
  match h with
  | .one h => exact h.havePhrases_cons hn ((h.havePhrases hn).append havePhrases_nil)
  | .more h _ tail =>
    exact h.havePhrases_cons hn.left
      ((h.havePhrases hn.left).append (tail.havePhrases hn.right.tail))

/-- A selector lists what its filter lists. -/
theorem IsSelector.havePhrases {ts s} (h : IsSelector ts s) (hn : HasNames ts) :
    HavePhrases s.listed := by
  match h with
  | .name _ => exact havePhrases_nil
  | .wildcard _ => exact havePhrases_nil
  | .index _ => exact havePhrases_nil
  | .slice _ _ _ _ => exact havePhrases_nil
  | .filter _ h => exact h.havePhrases hn.tail

/-- A disjunction lists what both parts list. -/
theorem IsDisjunction.havePhrases {ts e} (h : IsDisjunction ts e) (hn : HasNames ts) :
    HavePhrases e.listed := by
  match h with
  | .one h => exact h.havePhrases hn
  | .more hl _ hr => exact (hl.havePhrases hn.left).append (hr.havePhrases hn.right.tail)

theorem IsConjunction.havePhrases {ts e} (h : IsConjunction ts e) (hn : HasNames ts) :
    HavePhrases e.listed := by
  match h with
  | .one h => exact h.havePhrases hn
  | .more hl _ hr => exact (hl.havePhrases hn.left).append (hr.havePhrases hn.right.tail)

/-- A test lists what its operands list. -/
theorem IsTest.havePhrases {ts e} (h : IsTest ts e) (hn : HasNames ts) :
    HavePhrases e.listed := by
  match h with
  | .not _ h => exact h.havePhrases hn.tail
  | .simple h => exact h.havePhrases hn
  | .comparison hl _ hr => exact (hl.havePhrases hn.left).append (hr.havePhrases hn.right.tail)

theorem IsSimple.havePhrases {ts e} (h : IsSimple ts e) (hn : HasNames ts) :
    HavePhrases e.listed := by
  match h with
  | .paren _ h _ => exact h.havePhrases hn.left.tail
  | .call h => exact h.havePhrases hn
  | .query _ h => exact h.havePhrases hn.tail

/-- A call lists what its arguments list. -/
theorem IsCall.havePhrases {ts f es} (h : IsCall ts f es) (hn : HasNames ts) :
    HavePhrases (listedExprs es) := by
  match h with
  | .none _ _ _ => exact havePhrases_nil
  | .some _ _ h _ => exact h.havePhrases hn.tail.tail.left

theorem IsArguments.havePhrases {ts es} (h : IsArguments ts es) (hn : HasNames ts) :
    HavePhrases (listedExprs es) := by
  match h with
  | .one h => exact (h.havePhrases hn).append havePhrases_nil
  | .more h _ tail => exact (h.havePhrases hn.left).append (tail.havePhrases hn.right.tail)

/-- An argument lists what its operands list. -/
theorem IsArgument.havePhrases {ts e} (h : IsArgument ts e) (hn : HasNames ts) :
    HavePhrases e.listed := by
  match h with
  | .literal h => exact h.listed_eq_nil ▸ havePhrases_nil
  | .comparison hl _ hr =>
    exact HavePhrases.append (hl.listed_eq_nil ▸ havePhrases_nil) (hr.havePhrases hn.tail.tail)
  | .expr _ h => exact h.havePhrases hn

/-- An operand lists what its segments or arguments list. -/
theorem IsComparable.havePhrases {ts e} (h : IsComparable ts e) (hn : HasNames ts) :
    HavePhrases e.listed := by
  match h with
  | .literal h => exact h.listed_eq_nil ▸ havePhrases_nil
  | .call h => exact h.havePhrases hn
  | .query _ h _ => exact h.havePhrases hn.tail

end

end Grammar

/-! ## Selectors that are read -/

/-- The query with a single pair of brackets, and a single selector in them. -/
def Selector.alone (s : Selector) : Query := ⟨[.brackets .children [s]]⟩

/-- A selector that has a phrase is read from its own text. -/
theorem Selector.ofText_alone {s : Selector} (h : IsSelector s.tokens s)
    (hs : s.isSpellable = true) : ofText s.alone.toText = .ok s.alone := by
  refine ofText_toText_of_isSegments ?_ (.cons (.brackets (.mk rfl (.one h) rfl)) .nil)
  simp [alone, areSpellableSegments, Segment.isSpellable, areSpellableSelectors, hs]

/-- A selector is read in the brackets of some text if and only if its own tokens are a phrase for
it and can be spelled. -/
theorem Selector.isParsed_iff {s : Selector} :
    s.IsParsed ↔ IsSelector s.tokens s ∧ s.isSpellable = true := by
  constructor
  · rintro ⟨octets, q, h, hs⟩
    obtain ⟨ts, hts, hn⟩ := exists_isSegments_of_ofBytes h
    obtain ⟨us, hus, hnames⟩ := hts.havePhrases hn s hs
    exact ⟨hus.canonical, hus.isSpellable hnames⟩
  · rintro ⟨h, hs⟩
    exact ⟨_, s.alone, ofText_alone h hs, List.mem_cons_self⟩

/-- A selector occurs in some query that is read if and only if it is read from its own text. -/
theorem Selector.isParsed_iff_ofText {s : Selector} :
    s.IsParsed ↔ ofText s.alone.toText = .ok s.alone := by
  constructor
  · intro h
    obtain ⟨h, hs⟩ := isParsed_iff.mp h
    exact ofText_alone h hs
  · exact fun h => ⟨_, s.alone, h, List.mem_cons_self⟩

theorem Selector.isBuilt_alone (s : Selector) : s.alone.isBuilt = (s.isSpellable && s.isBuilt) := by
  simp [alone, Query.isBuilt, areSpellableSegments, Segment.isSpellable, areSpellableSelectors,
    areBuiltSegments, Segment.isBuilt, areBuiltSelectors]

theorem Selector.areReadable_alone (s : Selector) :
    areReadableSegments s.alone.segments = s.isReadable := by
  simp [alone, areReadableSegments, Segment.isReadable, areReadableSelectors]

/-- A selector is read if it is built and readable, and is reread as itself. -/
theorem Selector.isParsed_iff_reread {s : Selector} : s.IsParsed ↔
    (s.isSpellable && s.isBuilt) = true ∧ s.isReadable = true ∧ s = s.reread := by
  have halone (hb : s.alone.isBuilt = true) :
      s.IsParsed ↔ s.isReadable = true ∧ s = s.reread := by
    have hreread : s.alone.reread = s.reread.alone := rfl
    rw [isParsed_iff_ofText, ofText_toText_of_isBuilt hb, areReadable_alone, hreread]
    simp [alone]
  rw [isBuilt_alone] at halone
  -- What is read is built, so the condition for that costs nothing.
  constructor
  · intro h
    obtain ⟨hb, -⟩ := reread_of_ofBytes (isParsed_iff_ofText.mp h)
    rw [isBuilt_alone] at hb
    exact ⟨hb, (halone hb).mp h⟩
  · rintro ⟨hb, h⟩
    exact (halone hb).mpr h

end JsonPath.Query
