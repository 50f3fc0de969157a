import JsonPath.Proofs.Grammar.Canonical
import JsonPath.Proofs.Grammar.Decision

/-!
# Canonical text is read back

Every query that is read from a text is read again from its canonical text. On the way there, a text
is read as a phrase of the grammar; the tokens that are written for a phrase are a phrase for the
same query; and these tokens are what the canonical text is cut into.
-/

namespace JsonPath.Query

open JsonPath.Token Grammar

/-- A query is read from its canonical text if the tokens that are written for it are a phrase for
it. -/
theorem ofText_toText_of_isSegments {q : Query} (hs : areSpellableSegments q.segments = true)
    (h : IsSegments (segmentsTokens q.segments) q.segments) : ofText q.toText = .ok q := by
  have hend : ∀ t ∈ sign .root '$' :: segmentsTokens q.segments, t.kind ≠ .endOfInput := by
    intro t ht
    rw [← lexemes_text hs] at ht
    exact (isInner_of_mem_lexemes ht).ne_end
  rw [ofText, ofBytes, tokenize_toText hs]
  exact (ofTokens_eq_ok_iff hend rfl).mpr (.unmarked (.mk rfl h rfl))

/-- What is read from octets is a phrase of tokens whose names are names. -/
theorem exists_isSegments_of_ofBytes {octets : List UInt8} {q : Query}
    (h : ofBytes octets = .ok q) : ∃ ts, IsSegments ts q.segments ∧ HasNames ts := by
  obtain ⟨ts, hts, hend⟩ := tokenize_eq_append octets
  have hn : HasNames (ts ++ [endOfInput]) := fun t ht => isName_of_mem_tokenize (hts ▸ ht)
  rw [ofBytes, hts, ofTokens_eq_ok_iff hend rfl] at h
  have hmk : ∀ us, HasNames us → IsUnmarked us q →
      ∃ ts, IsSegments ts q.segments ∧ HasNames ts := by
    intro us hus hq
    cases hq with
    | mk _ hss => exact ⟨_, hss, hus.left.tail⟩
  generalize ts ++ [endOfInput] = us at h hn
  cases h with
  | unmarked h => exact hmk _ hn h
  | marked _ h => exact hmk _ hn.tail h

/-- What is read from octets can be spelled, and the tokens that are written for it are a phrase
for it. -/
theorem spellable_of_ofBytes {octets : List UInt8} {q : Query} (h : ofBytes octets = .ok q) :
    areSpellableSegments q.segments = true ∧ IsSegments (segmentsTokens q.segments) q.segments := by
  obtain ⟨ts, hss, hn⟩ := exists_isSegments_of_ofBytes h
  exact ⟨hss.areSpellable hn, hss.canonical⟩

/-- **Rereading.** The canonical text of what is read is read as the same query: its tokens are a
phrase of the grammar for the query, as those of the text were. -/
theorem ofText_toText (octets : List UInt8) (q : Query) (h : ofBytes octets = .ok q) :
    ofText q.toText = .ok q := by
  obtain ⟨hs, hq⟩ := spellable_of_ofBytes h
  exact ofText_toText_of_isSegments hs hq

/-- Blanks, quotes and parentheses in a text: `$ ["b"]..c[?!(@.x||f())]`. -/
theorem ofText_toText_example :
    let x : Expr := .nodes .current [.dot .children (.shorthand "x")]
    let q : Query := ⟨[.brackets .children [.name "b"], .dot .descendants (.shorthand "c"),
      .brackets .children [.filter (.not (.paren (.binary .or x (.call "f" []))))]]⟩
    ofText q.toText = .ok q :=
  ofText_toText "$ [\"b\"]..c[?!(@.x||f())]".toUTF8.toList _ (by cbv)

end JsonPath.Query
