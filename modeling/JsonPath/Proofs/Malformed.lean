import JsonPath.Proofs.Grammar.Decision
import JsonPath.Proofs.Grammar.Known
import JsonPath.Proofs.Lexing.Division
import JsonPath.Proofs.Octets.Sequences

/-!
# Octets that are no UTF-8

A query whose octets are malformed is refused, wherever in it they stand: between tokens, in names
and numbers and between quotes. For a malformed sequence leaves a gap, a gap is a token of kind
`unknown` by itself, and such a token has no place in a query.

Overlong sequences are the exception (`ofBytes_of_not_isUtf8`). They are not malformed for the
reader, which takes them for their characters. So what is read from octets that are no UTF-8 is what
is read from the text that they encode if overlong sequences are admitted.
-/

namespace JsonPath.Token

open JsonPath.Text

/-! ## Texts that are read -/

/-- The octets are read as a text. The sequences of the text may be overlong, but not that of a byte
order mark in front of it. -/
structure ReadsAs (octets : List UInt8) (text : String) : Prop where
  decodes : Decodes octets text.toList
  marked : text.toList.head? = some '\uFEFF' → byteOrderMark <+: octets

theorem readsAs_toUTF8 (text : String) : ReadsAs text.toUTF8.toList text where
  decodes := decodes_iff.mpr (readings_toUTF8 text)
  marked := by
    intro hhead
    rw [toUTF8_toList]
    cases htext : text.toList with
    | nil =>
      rw [htext] at hhead
      cases hhead
    | cons c cs =>
      rw [htext] at hhead
      obtain rfl := Option.some.inj hhead
      exact ⟨cs.flatMap String.utf8EncodeChar, rfl⟩

/-- Behind the byte order mark, characters are read if they are read with it. -/
theorem decodes_mark_append_iff {octets : List UInt8} {cs : List Char} :
    Decodes (byteOrderMark ++ octets) cs ↔ ∃ cs', cs = '\uFEFF' :: cs' ∧ Decodes octets cs' := by
  have hread : (readings (byteOrderMark ++ octets)).map Reading.char?
      = some '\uFEFF' :: (readings octets).map Reading.char? := by
    rw [show byteOrderMark = String.utf8EncodeChar '\uFEFF' from rfl, readings_encode,
      List.map_cons, char?_codePoint]
  rw [decodes_iff, hread]
  cases cs with
  | nil => simp
  | cons c cs => simp [decodes_iff, eq_comm]

/-- What a lexer sees of characters that are read. -/
theorem Lexer.ofBytes_of_decodes {octets : List UInt8} {cs : List Char} (h : Decodes octets cs)
    (hmark : cs.head? = some '\uFEFF' → byteOrderMark <+: octets) :
    Lexer.ofBytes octets =
      if cs.head? = some '\uFEFF' then ⟨true, cs.tail.map some⟩ else ⟨false, cs.map some⟩ := by
  by_cases hmarked : byteOrderMark <+: octets
  · obtain ⟨rest, rfl⟩ := hmarked
    obtain ⟨cs, rfl, hcs⟩ := decodes_mark_append_iff.mp h
    rw [Lexer.ofBytes_mark_append, decodes_iff.mp hcs]
    rfl
  · rw [Lexer.ofBytes_unmarked hmarked, decodes_iff.mp h, if_neg fun hhead => hmarked (hmark hhead)]

/-- The text that octets are read as determines what a lexer sees of them. -/
theorem ReadsAs.ofBytes_eq {octets octets' : List UInt8} {text : String}
    (h : ReadsAs octets text) (h' : ReadsAs octets' text) :
    Lexer.ofBytes octets = Lexer.ofBytes octets' := by
  rw [Lexer.ofBytes_of_decodes h.decodes h.marked, Lexer.ofBytes_of_decodes h'.decodes h'.marked]

/-! ## Texts whose tokens are known -/

/-- The character that is the byte order mark starts a name where it is no mark. -/
theorem next?_mark (gs : List Glyph) :
    ∃ text rest, next? (some '\uFEFF' :: gs) = some (⟨.name, text⟩, rest) := ⟨_, _, rfl⟩

/-- A query starts with the root sign, so it does not start with an overlong mark. -/
theorem not_isQuery_of_unmarked {octets : List UInt8} {gs : List Glyph} {q : Query}
    (hmarked : ¬ byteOrderMark <+: octets)
    (hgs : (readings octets).map Reading.char? = some '\uFEFF' :: gs) :
    ¬ Query.Grammar.IsQuery (tokenize octets) q := by
  obtain ⟨text, rest, hnext⟩ := next?_mark gs
  have hts : tokenize octets = ⟨.name, text⟩ :: (lexemes rest ++ [endOfInput]) := by
    rw [tokenize, Lexer.ofBytes_unmarked hmarked, Lexer.all, hgs, lexemes_of_some hnext]
    rfl
  intro h
  rw [hts] at h
  cases h with
  | marked hm => cases hm
  | unmarked hq => cases hq.kind_eq

/-- Where all tokens are known, there are no gaps. -/
theorem exists_readsAs {octets : List UInt8} {q : Query}
    (h : Query.Grammar.IsQuery (tokenize octets) q) : ∃ text, ReadsAs octets text := by
  have hknown := h.known
  rw [tokenize, Lexer.all, Query.Grammar.known_append, Query.Grammar.known_append] at hknown
  obtain ⟨cs, hcs⟩ := (divides_lexemes _).eq_map_some hknown.1.2
  by_cases hmarked : byteOrderMark <+: octets
  · obtain ⟨rest, rfl⟩ := hmarked
    have hdec := decodes_mark_append_iff.mpr ⟨cs, rfl, decodes_iff.mpr hcs⟩
    refine ⟨.ofList ('\uFEFF' :: cs), ?_, fun _ => ⟨rest, rfl⟩⟩
    rwa [String.toList_ofList]
  · rw [Lexer.ofBytes_unmarked hmarked] at hcs
    refine ⟨.ofList cs, ?_, ?_⟩
    · rw [String.toList_ofList]
      exact decodes_iff.mpr hcs
    · rw [String.toList_ofList]
      intro hhead
      obtain ⟨cs, rfl⟩ := List.head?_eq_some_iff.mp hhead
      exact absurd h (not_isQuery_of_unmarked hmarked hcs)

end JsonPath.Token

namespace JsonPath.Query

open JsonPath.Text JsonPath.Token

/-- **Malformed octets.** Octets that are no UTF-8 are refused if none of their sequences is
overlong. In any case, what is read from them is what is read from a text that they are read as. -/
theorem ofBytes_of_not_isUtf8 {octets : List UInt8} (h : ¬ IsUtf8 octets) :
    ((∀ os ∈ sequences octets, ¬ IsOverlong os) → ∃ e, ofBytes octets = .error e) ∧
    ∀ q, ofBytes octets = .ok q ↔ ∃ text, ReadsAs octets text ∧ ofText text = .ok q := by
  have hreads {text : String} (ht : ReadsAs octets text) : ofBytes octets = ofText text := by
    rw [ofText, ofBytes, ofBytes, tokenize, tokenize, ht.ofBytes_eq (readsAs_toUTF8 text)]
  have htext {q : Query} (hq : ofBytes octets = .ok q) : ∃ text, ReadsAs octets text :=
    exists_readsAs ((ofTokens_tokenize_eq_ok_iff octets q).mp hq)
  refine ⟨fun hshort => ?_, fun q => ⟨fun hq => ?_, ?_⟩⟩
  · cases hq : ofBytes octets with
    | error e => exact ⟨e, rfl⟩
    | ok q =>
      obtain ⟨text, ht⟩ := htext hq
      exact absurd (ht.decodes.isUtf8 hshort) h
  · obtain ⟨text, ht⟩ := htext hq
    exact ⟨text, ht, (hreads ht).symm.trans hq⟩
  · rintro ⟨text, ht, hq⟩
    exact (hreads ht).trans hq

/-- A surrogate in a name is refused. -/
theorem ofBytes_of_not_isUtf8_surrogate :
    let octets := [0x24, 0x5B, 0x27, 0xED, 0xA0, 0x80, 0x27, 0x5D]
    ¬ IsUtf8 octets ∧ (∀ os ∈ sequences octets, ¬ IsOverlong os) ∧
      ∃ e, ofBytes octets = .error e := by
  intro octets
  have h : ¬ IsUtf8 octets := by decide +kernel
  have hshort : ∀ os ∈ sequences octets, ¬ IsOverlong os := by decide +kernel
  exact ⟨h, hshort, (ofBytes_of_not_isUtf8 h).1 hshort⟩

/-- An overlong dot is a dot. -/
theorem ofBytes_of_not_isUtf8_overlong :
    ¬ IsUtf8 [0x24, 0xC0, 0xAE, 0x61] ∧
      ofBytes [0x24, 0xC0, 0xAE, 0x61] = .ok ⟨[.dot .children (.shorthand "a")]⟩ := by
  refine ⟨by decide +kernel, ?_⟩
  have htokens : tokenize [0x24, 0xC0, 0xAE, 0x61] =
      [⟨.root, "$"⟩, ⟨.dot, "."⟩, ⟨.name, "a"⟩, endOfInput] := by decide +kernel
  rw [ofBytes, htokens]
  cbv

end JsonPath.Query
