import JsonPath.Proofs.Grammar.Completeness
import JsonPath.Proofs.Grammar.Soundness
import JsonPath.Proofs.Lexing

/-!
# Reading decides the grammar

A text is read as a query exactly if its tokens are one according to the grammar, and it is read as
that query. So the grammar assigns at most one query to a text, although it does not say where one
part of a phrase ends and the next begins.
-/

namespace JsonPath.Query

open JsonPath.Token Grammar

/-- A query starts with the root sign. -/
theorem Grammar.IsUnmarked.kind_eq {t : Token} {ts : List Token} {q : Query}
    (h : IsUnmarked (t :: ts) q) : t.kind = .root := by
  generalize hl : t :: ts = l at h
  cases h with
  | mk hr =>
    cases hl
    exact hr

/-- What is read from a place on is a query. -/
def ReadsQuery (c : Cursor) (q : Query) : Prop :=
  c.kind = .root ∧ ∃ d, Reads (Phrase.segments c.skip) q.segments d ∧ d.kind = .endOfInput

theorem unmarkedQuery_eq_ok_iff {c d : Cursor} {q : Query} :
    Program.unmarkedQuery c = .ok (q, d) ↔
      c.kind = .root ∧ Reads (Phrase.segments c.skip) q.segments d ∧ d.kind = .endOfInput := by
  rw [Program.unmarkedQuery, run_kind c rfl]
  refine ⟨?_, ?_⟩
  · split
    · next hk =>
      rw [run_skip, Reader.bind_eq_ok_iff]
      rintro ⟨ss, c₁, hs, h⟩
      rw [run_kind c₁ rfl] at h
      split at h
      · next he =>
        obtain ⟨rfl, rfl⟩ := Reader.pure_eq_ok_iff.mp h
        exact ⟨hk, reading_eq_ok_iff.mp hs, he⟩
      · exact absurd h Reader.unexpected_ne_ok
    · exact fun h => absurd h Reader.fail_ne_ok
  · rintro ⟨hk, hs, he⟩
    rw [if_pos hk, run_skip, Reader.bind_of_ok (reading_eq_ok_iff.mpr hs), run_kind d he,
      if_pos rfl]
    exact Reader.pure_eq_ok_iff.mpr ⟨rfl, rfl⟩

/-- A query is read behind the byte order mark, if there is one. -/
theorem ofTokens_eq_ok_iff_reads {ts : List Token} {q : Query} :
    ofTokens ts = .ok q ↔
      ReadsQuery (if Cursor.kind ⟨[], ts⟩ = .byteOrderMark then Cursor.skip ⟨[], ts⟩ else ⟨[], ts⟩)
        q := by
  rw [ofTokens_eq, Program.query_eq]
  generalize (if Cursor.kind ⟨[], ts⟩ = .byteOrderMark then Cursor.skip ⟨[], ts⟩
    else (⟨[], ts⟩ : Cursor)) = c
  refine ⟨fun h => ?_, ?_⟩
  · cases ho : Program.unmarkedQuery c with
    | error e =>
      rw [ho] at h
      cases h
    | ok p =>
      obtain ⟨q', d⟩ := p
      rw [ho] at h
      cases h
      obtain ⟨hk, hs, he⟩ := unmarkedQuery_eq_ok_iff.mp ho
      exact ⟨hk, d, hs, he⟩
  · rintro ⟨hk, d, hs, he⟩
    rw [unmarkedQuery_eq_ok_iff.mpr ⟨hk, hs, he⟩]
    rfl

/-- Tokens without an end of the input and what follows them are the tokens in front of the end of
the input and that end, if an end of the input comes first in what follows. -/
theorem append_eq_append_endOfInput {ts us vs : List Token} {e : Token}
    (h : ts ++ us = vs ++ [e]) (hts : ∀ t ∈ ts, t.kind ≠ .endOfInput)
    (hvs : ∀ t ∈ vs, t.kind ≠ .endOfInput) (he : e.kind = .endOfInput)
    (hus : (us.headD endOfInput).kind = .endOfInput) : ts = vs ∧ us = [e] := by
  cases us with
  | nil =>
    rw [List.append_nil] at h
    exact absurd he (hts e (h ▸ List.mem_append_right _ (List.mem_singleton_self e)))
  | cons u us =>
    rcases us.eq_nil_or_concat with rfl | ⟨us, x, rfl⟩
    · obtain ⟨hv, hu⟩ := List.append_inj' h rfl
      exact ⟨hv, hu⟩
    · rw [List.concat_eq_append, ← List.cons_append, ← List.append_assoc] at h
      obtain ⟨hv, -⟩ := List.append_inj' h rfl
      exact absurd hus (hvs u (hv ▸ List.mem_append_right _ List.mem_cons_self))

/-- What is read from a place on is what the tokens ahead are, provided that they end with the end
of the input. -/
theorem readsQuery_iff {c : Cursor} {ts : List Token} {e : Token} {q : Query}
    (hc : c.after = ts ++ [e]) (hts : ∀ t ∈ ts, t.kind ≠ .endOfInput) (he : e.kind = .endOfInput) :
    ReadsQuery c q ↔ IsUnmarked (ts ++ [e]) q := by
  refine ⟨?_, ?_⟩
  · rintro ⟨hk, d, hs, hd⟩
    obtain ⟨us, hu, hus⟩ := Phrase.segments_sound _ hs
    have ht : c.Through (c.token :: us) d := .cons hk (by decide) hu
    obtain ⟨rfl, -⟩ :=
      append_eq_append_endOfInput (ht.after.symm.trans hc) ht.inside hts he hd
    exact .mk hk hus he
  · intro h
    obtain ⟨ss⟩ := q
    generalize hl : ts ++ [e] = l at h
    cases h with
    | @mk r us e' _ hr hus he' =>
      obtain ⟨rfl, hee⟩ := List.append_inj' hl rfl
      have ht : c.Through (r :: us) ⟨(r :: us).reverse ++ c.before, [e]⟩ := ⟨hc, rfl, hts⟩
      have hd : Cursor.kind ⟨(r :: us).reverse ++ c.before, [e]⟩ = .endOfInput := he
      refine ⟨ht.kind_eq.trans hr, _, ?_, hd⟩
      exact Phrase.segments_complete hus ht.uncons.2 (hd ▸ Phrase.endsSegments_endOfInput)

/-- The tokens of a query, when the end of the input comes last and nowhere else. -/
theorem ofTokens_eq_ok_iff {ts : List Token} {e : Token} {q : Query}
    (hts : ∀ t ∈ ts, t.kind ≠ .endOfInput) (he : e.kind = .endOfInput) :
    ofTokens (ts ++ [e]) = .ok q ↔ IsQuery (ts ++ [e]) q := by
  rw [ofTokens_eq_ok_iff_reads]
  by_cases hm : Cursor.kind ⟨[], ts ++ [e]⟩ = .byteOrderMark
  · rw [if_pos hm]
    cases ts with
    | nil => exact nomatch he.symm.trans hm
    | cons m ts =>
      have hts' : ∀ t ∈ ts, t.kind ≠ .endOfInput := fun t ht => hts t (List.mem_cons_of_mem _ ht)
      have hafter : Cursor.after ⟨[m], ts ++ [e]⟩ = ts ++ [e] := rfl
      have hskip : Cursor.skip ⟨[], m :: ts ++ [e]⟩ = ⟨[m], ts ++ [e]⟩ := rfl
      rw [hskip, readsQuery_iff hafter hts' he]
      refine ⟨?_, ?_⟩
      · exact fun h => .marked hm h
      · intro h
        cases h with
        | marked _ h => exact h
        | unmarked h => exact nomatch h.kind_eq.symm.trans hm
  · have hafter : Cursor.after ⟨[], ts ++ [e]⟩ = ts ++ [e] := rfl
    rw [if_neg hm, readsQuery_iff hafter hts he]
    refine ⟨?_, ?_⟩
    · exact fun h => .unmarked h
    · intro h
      generalize hl : ts ++ [e] = l at h hm ⊢
      cases h with
      | marked hm' _ => exact absurd hm' hm
      | unmarked h => exact h

/-- The tokens that a text is cut into end with the end of the input, as those of a query do. -/
theorem ofTokens_tokenize_eq_ok_iff (octets : List UInt8) (q : Query) :
    ofTokens (tokenize octets) = .ok q ↔ Grammar.IsQuery (tokenize octets) q := by
  obtain ⟨ts, hts, hend⟩ := tokenize_eq_append octets
  rw [hts]
  exact ofTokens_eq_ok_iff hend rfl

/-- **Soundness and completeness.** A text is read as a query exactly if its tokens are that
query by the rules of the grammar, which say nothing of how tokens are read. -/
theorem ofBytes_eq_ok_iff (octets : List UInt8) (q : Query) :
    ofBytes octets = .ok q ↔ Grammar.IsQuery (tokenize octets) q := by
  rw [ofBytes]
  exact ofTokens_tokenize_eq_ok_iff octets q

end JsonPath.Query
