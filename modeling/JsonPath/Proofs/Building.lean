import JsonPath.Proofs.Brackets
import JsonPath.Proofs.Regrouping.Reading
import JsonPath.Query.Builder

/-!
# Queries built call by call

A query that is built is written as any other, and the question is for which calls it is read back.
Names are no matter: one that cannot stand behind a dot is quoted, and the builder tells them apart
as the lexer does (`isShorthand_iff`). Indices and bounds have to be in range, and selectors and
filters have to be such as are read from a text; then, whatever the calls and their order, the query
is read from its text, and otherwise it is not (`ofText_build`).
-/

namespace JsonPath.Query

open JsonPath.Text JsonPath.Token Grammar

/-! ## Calls -/

/-- A call of the builder. It adds a segment. -/
inductive Addition where
  | name (n : String)
  | descendant (n : String)
  | index (i : Int64)
  | slice (start stop step : Option Int64)
  | selection (ss : List Selector)
  | filter (e : Expr)
  | wildcard
  | descendantWildcard

/-- The query behind a call. -/
def Addition.run (q : Query) : Addition → Query
  | .name n => q.name n
  | .descendant n => q.descendant n
  | .index i => q.index i
  | .slice start stop step => q.slice start stop step
  | .selection ss => q.selection ss
  | .filter e => q.filter e
  | .wildcard => q.wildcard
  | .descendantWildcard => q.descendantWildcard

/-- The query behind a sequence of calls. -/
def build (calls : List Addition) : Query := calls.foldl Addition.run empty

/-- Whether what a call is given can be read. Indices and bounds have to be in range, there has to be
a selector, and any text is a name. A filter has to be an expression that is read as a filter: a
literal, which is only read as an operand or an argument, is none. -/
def Addition.IsReadable : Addition → Prop
  | .index i => isInRange i = true
  | .slice start stop step => (Slice.mk start stop step).isInRange = true
  | .selection ss => ss ≠ [] ∧ ∀ s ∈ ss, s.IsParsed
  | .filter e => (Selector.filter e).IsParsed
  | _ => True

/-- The segment that a call adds. -/
def Addition.segment : Addition → Segment
  | .name n => named .children n
  | .descendant n => named .descendants n
  | .index i => .brackets .children [.index i]
  | .slice start stop step => .brackets .children [.slice ⟨start, stop, step⟩]
  | .selection ss => .brackets .children ss
  | .filter e => .brackets .children [.filter e]
  | .wildcard => .dot .children .wildcard
  | .descendantWildcard => .dot .descendants .wildcard

/-- A call adds its segment at the end. -/
theorem Addition.segments_run (c : Addition) (q : Query) :
    (c.run q).segments = q.segments ++ [c.segment] := by
  cases c <;> rfl

theorem segments_foldl_run (calls : List Addition) (q : Query) :
    (calls.foldl Addition.run q).segments = q.segments ++ calls.map Addition.segment := by
  induction calls generalizing q with
  | nil => exact (List.append_nil _).symm
  | cons c calls ih =>
    rw [List.foldl_cons, ih, Addition.segments_run, List.append_assoc, List.singleton_append,
      List.map_cons]

/-- A query that is built has the segments of the calls. -/
theorem segments_build (calls : List Addition) :
    (build calls).segments = calls.map Addition.segment := segments_foldl_run calls empty

/-! ## Names -/

/-- The builder and the lexer agree on what a name starts with. -/
theorem startsShorthand_eq (c : Char) : startsShorthand c = isNameStart c := by
  have hupper : c.isUpper = (decide ('A' ≤ c) && decide (c ≤ 'Z')) := Bool.decide_and _ _
  have hlower : c.isLower = (decide ('a' ≤ c) && decide (c ≤ 'z')) := rfl
  have hascii : (!decide (c.toNat < 128)) = decide ('\x80' ≤ c) := by
    rw [← decide_not]
    exact decide_eq_decide.mpr Nat.not_lt
  rw [startsShorthand, isNameStart, Char.isAlpha, hupper, hlower, hascii]

/-- A name stands behind a dot without quotes if it is a name for the lexer and no word for a
literal. -/
theorem isShorthand_eq (n : String) : isShorthand n = (isName n.toList && !isKeyword n) := by
  unfold isShorthand isName
  cases n.toList with
  | nil => rfl
  | cons c cs =>
    simp only [startsShorthand_eq]
    rfl

/-- The builder writes a name without quotes just if the lexer finds it behind a dot, and it is no
word for a literal. -/
theorem isShorthand_iff (n : String) : isShorthand n = true ↔ isKeyword n = false ∧
    tokenize ("$." ++ n).toUTF8.toList
      = [sign .root '$', sign .dot '.', ⟨.name, n⟩, endOfInput] := by
  rw [isShorthand_eq, Bool.and_eq_true, Bool.not_eq_true', and_comm]
  refine and_congr_right fun _ => ⟨?_, ?_⟩
  · intro hn
    -- Behind the root sign, the text is that of a query, so its tokens are known.
    let q : Query := ⟨[.dot .children (.shorthand n)]⟩
    have hs : areSpellableSegments q.segments = true := by
      simp [q, areSpellableSegments, Segment.isSpellable, hn]
    have htext : q.toText = "$." ++ n := by
      have ht : q.text = ['$', '.'] ++ n.toList := by
        simp [q, text, segmentsText, Segment.text, Reach.dots]
      rw [toText, ht, String.ofList_append, String.ofList_toList]
    rw [← htext, tokenize_toText hs]
    rfl
  · intro htokens
    have hmem : (⟨.name, n⟩ : Token) ∈ tokenize ("$." ++ n).toUTF8.toList := by
      rw [htokens]
      simp
    exact isName_of_mem_tokenize hmem rfl

/-! ## Segments -/

namespace Grammar

/-- In a row of segments that is a phrase each segment is one. -/
theorem IsSegments.forall_mem {ts : List Token} {ss : List Segment} (h : IsSegments ts ss) :
    ∀ s ∈ ss, IsSegment s.tokens s := by
  induction ss generalizing ts with
  | nil => exact nofun
  | cons s ss ih =>
    cases h with
    | cons head tail => exact List.forall_mem_cons.mpr ⟨head.canonical, ih tail⟩

/-- And if each segment is a phrase, the row is. -/
theorem isSegments_of_forall_mem {ss : List Segment} (h : ∀ s ∈ ss, IsSegment s.tokens s) :
    IsSegments (segmentsTokens ss) ss := by
  induction ss with
  | nil => exact .nil
  | cons s ss ih =>
    obtain ⟨hs, hss⟩ := List.forall_mem_cons.mp h
    exact .cons hs (ih hss)

/-- Of selectors that are a phrase each is one. -/
theorem IsSelectors.forall_mem {ts : List Token} {ss : List Selector} (h : IsSelectors ts ss) :
    ∀ s ∈ ss, IsSelector s.tokens s := by
  induction ss generalizing ts with
  | nil => exact nofun
  | cons s ss ih =>
    cases h with
    | one h => exact List.forall_mem_singleton.mpr h.canonical
    | more h _ tail => exact List.forall_mem_cons.mpr ⟨h.canonical, ih tail⟩

/-- And if each selector is a phrase and there is one, all of them are. -/
theorem isSelectors_of_forall_mem {ss : List Selector} (hne : ss ≠ [])
    (h : ∀ s ∈ ss, IsSelector s.tokens s) : IsSelectors (commaTokens (selectorTokens ss)) ss := by
  induction ss with
  | nil => exact absurd rfl hne
  | cons s ss ih =>
    obtain ⟨hs, hss⟩ := List.forall_mem_cons.mp h
    cases ss with
    | nil => exact .one hs
    | cons s' ss => exact .more hs rfl (ih (List.cons_ne_nil _ _) hss)

/-- A segment in brackets is a phrase if its selectors are and there is one. -/
theorem isSegment_brackets_iff {reach : Reach} {ss : List Selector} :
    IsSegment (Segment.brackets reach ss).tokens (.brackets reach ss) ↔
      ss ≠ [] ∧ ∀ s ∈ ss, IsSelector s.tokens s := by
  constructor
  · intro h
    obtain ⟨ts, hts⟩ : ∃ ts, IsSelectors ts ss := by
      generalize (Segment.brackets reach ss).tokens = ts at h
      cases h with
      | brackets h => cases h with | mk _ h _ => exact ⟨_, h⟩
      | descendantBrackets _ h => cases h with | mk _ h _ => exact ⟨_, h⟩
    refine ⟨?_, hts.forall_mem⟩
    rintro rfl
    exact hts.tokens_ne_nil rfl
  · rintro ⟨hne, h⟩
    have hts := isSelectors_of_forall_mem hne h
    cases reach with
    | children => exact .brackets (.mk rfl hts rfl)
    | descendants => exact .descendantBrackets rfl (.mk rfl hts rfl)

end Grammar

theorem areSpellableSegments_iff {ss : List Segment} :
    areSpellableSegments ss = true ↔ ∀ s ∈ ss, s.isSpellable = true := by
  induction ss with
  | nil => exact iff_of_true rfl nofun
  | cons s ss ih => rw [areSpellableSegments, Bool.and_eq_true, ih, List.forall_mem_cons]

theorem areSpellableSelectors_iff {ss : List Selector} :
    areSpellableSelectors ss = true ↔ ∀ s ∈ ss, s.isSpellable = true := by
  induction ss with
  | nil => exact iff_of_true rfl nofun
  | cons s ss ih => rw [areSpellableSelectors, Bool.and_eq_true, ih, List.forall_mem_cons]

/-- The tokens of the segment are a phrase for it, and can be spelled. -/
def Segment.IsCanonical (s : Segment) : Prop := IsSegment s.tokens s ∧ s.isSpellable = true

/-- A query is read from its text if and only if each of its segments is canonical. -/
theorem ofText_toText_iff {q : Query} :
    ofText q.toText = .ok q ↔ ∀ s ∈ q.segments, s.IsCanonical := by
  constructor
  · intro h s hs
    obtain ⟨hspell, hphrase⟩ := spellable_of_ofBytes h
    exact ⟨hphrase.forall_mem s hs, areSpellableSegments_iff.mp hspell s hs⟩
  · intro h
    exact ofText_toText_of_isSegments (areSpellableSegments_iff.mpr fun s hs => (h s hs).2)
      (isSegments_of_forall_mem fun s hs => (h s hs).1)

/-- A segment in brackets is read from its own text if its selectors are. -/
theorem Segment.isCanonical_brackets {reach : Reach} {ss : List Selector} :
    (Segment.brackets reach ss).IsCanonical ↔ ss ≠ [] ∧ ∀ s ∈ ss, s.IsParsed := by
  rw [IsCanonical, isSegment_brackets_iff, Segment.isSpellable, areSpellableSelectors_iff]
  simp only [Selector.isParsed_iff, imp_and, forall_and, and_assoc]

theorem Segment.isCanonical_bracket {reach : Reach} {s : Selector} :
    (Segment.brackets reach [s]).IsCanonical ↔ s.IsParsed := by
  rw [isCanonical_brackets, and_iff_right (List.cons_ne_nil _ _), List.forall_mem_singleton]

/-! ## Selectors without filters

What is read of them depends on the range of their integers alone. -/

/-- Any name can stand between brackets. -/
theorem Selector.isParsed_name (n : String) : (Selector.name n).IsParsed :=
  isParsed_iff_reread.mpr ⟨rfl, rfl, rfl⟩

/-- An index can stand between brackets if it is in range. -/
theorem Selector.isParsed_index (i : Int64) : (Selector.index i).IsParsed ↔ isInRange i = true :=
  isParsed_iff_reread.trans ⟨fun h => h.2.1, fun h => ⟨rfl, h, rfl⟩⟩

/-- A slice can stand between brackets if its bounds are in range. -/
theorem Selector.isParsed_slice (s : Slice) : (Selector.slice s).IsParsed ↔ s.isInRange = true :=
  isParsed_iff_reread.trans ⟨fun h => h.2.1, fun h => ⟨rfl, h, rfl⟩⟩

/-- A name is written so that it is read back, with quotes or without them. -/
theorem isCanonical_named (reach : Reach) (n : String) : (named reach n).IsCanonical := by
  unfold named
  split
  · next hn =>
    rw [isShorthand_eq, Bool.and_eq_true] at hn
    cases reach with
    | children => exact ⟨.dot rfl (.name rfl), hn.1⟩
    | descendants => exact ⟨.descendantDot rfl (.name rfl), hn.1⟩
  · exact Segment.isCanonical_bracket.mpr (Selector.isParsed_name n)

/-! ## Queries -/

/-- The segment of a call is read from its own text if the call is readable. -/
theorem Addition.isCanonical_segment (c : Addition) : c.segment.IsCanonical ↔ c.IsReadable := by
  cases c with
  | name n => exact iff_of_true (isCanonical_named _ n) trivial
  | descendant n => exact iff_of_true (isCanonical_named _ n) trivial
  | index i => exact Segment.isCanonical_bracket.trans (Selector.isParsed_index i)
  | slice start stop step => exact Segment.isCanonical_bracket.trans (Selector.isParsed_slice _)
  | selection ss => exact Segment.isCanonical_brackets
  | filter e => exact Segment.isCanonical_bracket
  | wildcard => exact iff_of_true ⟨.dot rfl (.wildcard rfl), rfl⟩ trivial
  | descendantWildcard => exact iff_of_true ⟨.descendantDot rfl (.wildcard rfl), rfl⟩ trivial

/-- **Built queries.** A query that is built is read from its text if and only if each call was
given what can be read, in whatever order the calls were made. A name stands without quotes just
if the lexer finds it behind a dot, and it is no word for a literal. -/
theorem ofText_build :
    (∀ calls, ofText (build calls).toText = .ok (build calls) ↔ ∀ c ∈ calls, c.IsReadable) ∧
    ∀ n, isShorthand n = true ↔ isKeyword n = false ∧
      tokenize ("$." ++ n).toUTF8.toList
        = [sign .root '$', sign .dot '.', ⟨.name, n⟩, endOfInput] := by
  refine ⟨?_, isShorthand_iff⟩
  intro calls
  rw [ofText_toText_iff, segments_build, List.forall_mem_map]
  exact forall₂_congr fun c _ => c.isCanonical_segment

end JsonPath.Query
