import JsonPath.Proofs.Lexing.Division
import JsonPath.Proofs.Lexing.Lookahead
import JsonPath.Proofs.Octets.Sequences
import JsonPath.Query.Parser

/-!
# Blanks between tokens

Blanks may be put in front of the tokens of a text, between them and behind them, and nothing
changes: the same tokens are cut out, and so the same query is read, or the same error is found at
the same token (`ofBytes_ignoresBlanks`). The tokens must not be unknown ones, for a string that
breaks off may go on with a blank.

The relation `Widens` goes along octets and their tokens from the front. A token is scanned again
because what is behind it goes on alike (`Widens.alike`), whether or not a blank was put there.
-/

namespace JsonPath.Token

open JsonPath.Text

/-! ## What a lexer sees -/

/-- The glyphs that octets show. -/
def glyphs (octets : List UInt8) : List Glyph := (readings octets).map Reading.char?

theorem glyphs_nil : glyphs [] = [] := by rw [glyphs, readings_nil, List.map_nil]

/-- The octets of characters are glyphs of them, whatever follows. -/
theorem glyphs_append {os : List UInt8} {cs : List Char} (h : Decodes os cs)
    (rest : List UInt8) : glyphs (os ++ rest) = cs.map some ++ glyphs rest := by
  have hchar : (cs.map fun c => Reading.codePoint c.toNat).map Reading.char? = cs.map some := by
    rw [List.map_map]
    exact List.map_congr_left fun c _ => char?_codePoint c
  rw [glyphs, h.readings_append, List.map_append, hchar, glyphs]

theorem glyphs_cons {os : List UInt8} {c : Char} (h : Encodes os c.toNat) (rest : List UInt8) :
    glyphs (os ++ rest) = some c :: glyphs rest := by
  rw [glyphs, h.readings_append, List.map_cons, char?_codePoint, glyphs]

/-- Where a character is seen, there is a sequence that encodes it. -/
theorem exists_encodes {octets : List UInt8} {c : Char} {gs : List Glyph}
    (h : glyphs octets = some c :: gs) :
    ∃ os rest, octets = os ++ rest ∧ Encodes os c.toNat ∧ glyphs rest = gs := by
  cases octets with
  | nil =>
    rw [glyphs_nil] at h
    cases h
  | cons lead rest =>
    rw [glyphs, readings_cons, List.map_cons] at h
    obtain ⟨hread, hrest⟩ := List.cons.inj h
    exact ⟨_, _, (consumed_append lead rest).symm,
      readFrom_eq_codePoint_iff.mp (char?_eq_some_iff.mp hread), hrest⟩

/-- Glyphs of characters at the front come from octets of these. -/
theorem exists_decodes {octets : List UInt8} {cs : List Char} {gs : List Glyph}
    (h : glyphs octets = cs.map some ++ gs) :
    ∃ os rest, octets = os ++ rest ∧ Decodes os cs ∧ glyphs rest = gs := by
  induction cs generalizing octets with
  | nil => exact ⟨[], octets, rfl, decodes_nil, h⟩
  | cons c cs ih =>
    obtain ⟨os, rest, rfl, hos, hrest⟩ := exists_encodes h
    obtain ⟨os', rest, rfl, hos', hrest⟩ := ih hrest
    exact ⟨os ++ os', rest, (List.append_assoc ..).symm, hos'.cons hos, hrest⟩

/-! ## The first token -/

/-- A token that is known is scanned where its text stands, and the others behind it. -/
theorem exists_scanChar {text : List Char} {gs : List Glyph} {t : Token} {ts : List Token}
    (h : lexemes (text.map some ++ gs) = t :: ts) (htext : t.text.toList = text)
    (hk : t.kind ≠ .unknown) :
    ∃ c cs, text = c :: cs ∧ isBlank c = false ∧
      scanChar c (cs.map some ++ gs) = (t.kind, cs.length) ∧ lexemes gs = ts := by
  have hdivides := divides_lexemes (text.map some ++ gs)
  rw [h] at hdivides
  generalize hall : text.map some ++ gs = all at hdivides h
  cases hdivides with
  | gap => exact absurd rfl hk
  | @token bs cs c k gs' ts hb hc hs tail =>
    rw [String.toList_ofList] at htext
    subst htext
    cases bs with
    | cons b bs =>
      -- The text does not start with a blank, so there are none in front of it.
      have hhead : c = b := Option.some.inj (List.cons.inj hall).1
      rw [hhead, hb b List.mem_cons_self] at hc
      cases hc
    | nil =>
      have hrest : cs.map some ++ gs = cs.map some ++ gs' := (List.cons.inj hall).2
      rw [List.append_cancel_left hrest]
      have hlexemes := lexemes_of_some (next?_of_scanChar hc hs)
      exact ⟨c, cs, rfl, hc, hs, (List.cons.inj (hlexemes.symm.trans h)).2⟩

/-! ## More blanks -/

/-- The tokens `ts` stand in the octets `octets`, with blanks around them, and `octets'` are the
same octets with more blanks around the tokens. -/
inductive Widens : List Token → List UInt8 → List UInt8 → Prop
  | nil : Widens [] [] []
  /-- a blank is put in -/
  | insert {c ts octets octets'} (hc : isBlank c = true) (tail : Widens ts octets octets') :
    Widens ts octets (String.utf8EncodeChar c ++ octets')
  /-- a blank is there already, encoded in any form; nothing comes between its octets -/
  | blank {os c ts octets octets'} (hos : Encodes os c.toNat) (hc : isBlank c = true)
    (tail : Widens ts octets octets') : Widens ts (os ++ octets) (os ++ octets')
  /-- a token is there, and nothing comes between its octets -/
  | token {os t ts octets octets'} (hos : Decodes os t.text.toList)
    (tail : Widens ts octets octets') : Widens (t :: ts) (os ++ octets) (os ++ octets')

namespace Widens

variable {ts : List Token} {octets octets' : List UInt8}

/-- Whether or not a blank comes next now, what is scanned in front of it is scanned again. -/
theorem alike (h : Widens ts octets octets') (hts : lexemes (glyphs octets) = ts)
    (hk : ∀ t ∈ ts, t.kind ≠ .unknown) : Alike 0 (glyphs octets) (glyphs octets') := by
  cases h with
  | nil =>
    rw [glyphs_nil]
    exact .ends _
  | insert hc tail =>
    rw [glyphs_cons (encodes_utf8EncodeChar _)]
    exact .blank hc _ _
  | blank hos hc tail =>
    rw [glyphs_cons hos, glyphs_cons hos]
    exact .same _ _ _
  | token hos tail =>
    rw [glyphs_append hos] at hts
    obtain ⟨c, cs, htext, -⟩ := exists_scanChar hts rfl (hk _ List.mem_cons_self)
    rw [glyphs_append hos, glyphs_append hos, htext]
    exact .same _ _ _

/-- The same tokens are cut out of the octets with more blanks. -/
theorem lexemes_eq (h : Widens ts octets octets') (hts : lexemes (glyphs octets) = ts)
    (hk : ∀ t ∈ ts, t.kind ≠ .unknown) : lexemes (glyphs octets') = ts := by
  induction h with
  | nil => exact hts
  | insert hc tail ih =>
    rw [glyphs_cons (encodes_utf8EncodeChar _), lexemes_blank hc, ih hts hk]
  | blank hos hc tail ih =>
    rw [glyphs_cons hos, lexemes_blank hc] at hts ⊢
    exact ih hts hk
  | @token os t ts octets octets' hos tail ih =>
    rw [glyphs_append hos] at hts ⊢
    obtain ⟨c, cs, htext, hc, hs, hrest⟩ := exists_scanChar hts rfl (hk t List.mem_cons_self)
    have hk' : ∀ u ∈ ts, u.kind ≠ .unknown := fun u hu => hk u (List.mem_cons_of_mem _ hu)
    -- Nothing is put inside of the token, and what is behind it goes on alike.
    have halike := (tail.alike hrest hk').append (cs.map some)
    have hscan : scanChar c (cs.map some ++ glyphs octets') = (t.kind, cs.length) := by
      rw [Alike.scanChar_eq, hs]
      · rw [hs]
        exact hk t List.mem_cons_self
      · rw [hs]
        rwa [List.length_map] at halike
    have htoken : (⟨t.kind, .ofList (c :: cs)⟩ : Token) = t := by rw [← htext, String.ofList_toList]
    rw [htext, List.map_cons, List.cons_append, lexemes_of_some (next?_of_scanChar hc hscan),
      htoken, ih hrest hk']

theorem ne_mark_of_isBlank {c : Char} (hc : isBlank c = true) : c.toNat ≠ '\uFEFF'.toNat := by
  simp only [isBlank, Bool.or_eq_true, beq_iff_eq] at hc
  rcases hc with ((rfl | rfl) | rfl) | rfl <;> decide

/-- More blanks do not make a byte order mark. -/
theorem isMarked (h : Widens ts octets octets') (hts : lexemes (glyphs octets) = ts)
    (hk : ∀ t ∈ ts, t.kind ≠ .unknown) (hm : byteOrderMark <+: octets') :
    byteOrderMark <+: octets := by
  cases h with
  | nil => exact hm
  | insert hc =>
    exact absurd ((encodes_utf8EncodeChar _).of_isMarked hm).2 (ne_mark_of_isBlank hc)
  | blank hos hc => exact absurd (hos.of_isMarked hm).2 (ne_mark_of_isBlank hc)
  | token hos tail =>
    -- The mark is the first character of the token, so it is there already.
    rw [glyphs_append hos] at hts
    obtain ⟨c, cs, htext, -⟩ := exists_scanChar hts rfl (hk _ List.mem_cons_self)
    rw [htext] at hos
    obtain ⟨os, rest, rfl, hos, -⟩ := hos.exists_cons
    rw [List.append_assoc] at hm
    rw [(hos.of_isMarked hm).1, List.append_assoc]
    exact List.prefix_append _ _

/-! ### No more blanks -/

theorem of_blanks {bs : List Char} {gs : List Glyph} (hb : ∀ b ∈ bs, isBlank b = true)
    (h : ∀ rest, glyphs rest = gs → Widens ts rest rest)
    (hgs : glyphs octets = bs.map some ++ gs) : Widens ts octets octets := by
  induction bs generalizing octets with
  | nil => exact h octets hgs
  | cons b bs ih =>
    obtain ⟨hb, hbs⟩ := List.forall_mem_cons.mp hb
    obtain ⟨os, rest, rfl, hos, hrest⟩ := exists_encodes hgs
    exact .blank hos hb (ih hbs hrest)

/-- The tokens of octets stand in them, with blanks around them, unless they are unknown. -/
theorem of_divides {gs : List Glyph} (h : Divides gs ts) (hk : ∀ t ∈ ts, t.kind ≠ .unknown)
    (hgs : glyphs octets = gs) : Widens ts octets octets := by
  induction h generalizing octets with
  | @blanks bs hb =>
    rw [← List.append_nil (bs.map some)] at hgs
    refine of_blanks hb (fun rest hrest => ?_) hgs
    cases rest with
    | nil => exact .nil
    | cons lead rest =>
      rw [glyphs, readings_cons] at hrest
      cases hrest
  | gap => exact absurd rfl (hk _ List.mem_cons_self)
  | @token bs cs c k gs ts hb hc hs tail ih =>
    refine of_blanks hb (fun rest (hrest : glyphs rest = (c :: cs).map some ++ gs) => ?_) hgs
    obtain ⟨os, rest, rfl, hos, hrest⟩ := exists_decodes hrest
    have htext : Decodes os (String.ofList (c :: cs)).toList := by rwa [String.toList_ofList]
    exact .token htext (ih (fun t ht => hk t (List.mem_cons_of_mem _ ht)) hrest)

end Widens

/-! ## Main statement -/

/-- Blanks are put in front of the tokens of octets, between them and behind them, but not in front
of the byte order mark. -/
inductive IsWidened : List UInt8 → List UInt8 → Prop
  | unmarked {ts octets octets'} (hmark : ¬ byteOrderMark <+: octets)
    (hts : tokenize octets = ts ++ [endOfInput]) (h : Widens ts octets octets') :
    IsWidened octets octets'
  | marked {ts octets octets'}
    (hts : tokenize (byteOrderMark ++ octets) = mark :: (ts ++ [endOfInput]))
    (h : Widens ts octets octets') : IsWidened (byteOrderMark ++ octets) (byteOrderMark ++ octets')

theorem tokenize_unmarked {octets : List UInt8} (h : ¬ byteOrderMark <+: octets) :
    tokenize octets = lexemes (glyphs octets) ++ [endOfInput] := by
  rw [tokenize, Lexer.ofBytes_unmarked h]
  rfl

/-- A byte order mark is one token in front of those of the text behind it. -/
theorem tokenize_marked (octets : List UInt8) :
    tokenize (byteOrderMark ++ octets) = mark :: (lexemes (glyphs octets) ++ [endOfInput]) := rfl

/-- Known tokens are widened to themselves. -/
theorem isWidened_refl {octets : List UInt8} (hk : ∀ t ∈ tokenize octets, t.kind ≠ .unknown) :
    IsWidened octets octets := by
  by_cases hmark : byteOrderMark <+: octets
  · obtain ⟨octets, rfl⟩ := hmark
    rw [tokenize_marked] at hk
    refine .marked (tokenize_marked octets) (.of_divides (divides_lexemes _) (fun t ht => ?_) rfl)
    exact hk t (List.mem_cons_of_mem _ (List.mem_append_left _ ht))
  · rw [tokenize_unmarked hmark] at hk
    refine .unmarked hmark (tokenize_unmarked hmark)
      (.of_divides (divides_lexemes _) (fun t ht => ?_) rfl)
    exact hk t (List.mem_append_left _ ht)

/-- Blanks between tokens do not change them. -/
theorem IsWidened.tokenize_eq {octets octets' : List UInt8} (h : IsWidened octets octets')
    (hk : ∀ t ∈ tokenize octets, t.kind ≠ .unknown) : tokenize octets' = tokenize octets := by
  cases h with
  | @unmarked ts octets octets' hmark hts h =>
    rw [hts] at hk
    have hk' : ∀ t ∈ ts, t.kind ≠ .unknown := fun t ht => hk t (List.mem_append_left _ ht)
    have hlexemes : lexemes (glyphs octets) = ts :=
      List.append_cancel_right ((tokenize_unmarked hmark).symm.trans hts)
    have hmark' : ¬ byteOrderMark <+: octets' := mt (h.isMarked hlexemes hk') hmark
    rw [tokenize_unmarked hmark', h.lexemes_eq hlexemes hk', hts]
  | @marked ts octets octets' hts h =>
    rw [hts] at hk
    have hk' : ∀ t ∈ ts, t.kind ≠ .unknown := fun t ht =>
      hk t (List.mem_cons_of_mem _ (List.mem_append_left _ ht))
    have hlexemes : lexemes (glyphs octets) = ts :=
      List.append_cancel_right (List.cons.inj ((tokenize_marked octets).symm.trans hts)).2
    rw [tokenize_marked, h.lexemes_eq hlexemes hk', hts]

end JsonPath.Token

namespace JsonPath.Query

open JsonPath.Text JsonPath.Token

/-- **Blanks.** Octets whose tokens are all known are made of these tokens and blanks. With more
blanks around them the tokens are the same, and so is the query that is read or the error that is
found. -/
theorem ofBytes_ignoresBlanks {octets : List UInt8}
    (hk : ∀ t ∈ tokenize octets, t.kind ≠ .unknown) :
    IsWidened octets octets ∧ ∀ octets', IsWidened octets octets' →
      tokenize octets' = tokenize octets ∧ ofBytes octets' = ofBytes octets := by
  refine ⟨isWidened_refl hk, fun octets' h => ?_⟩
  have htokens := h.tokenize_eq hk
  exact ⟨htokens, by rw [ofBytes, ofBytes, htokens]⟩

/-- Behind the byte order mark, `$[01]` and ` $[0\t1\r\n]`, where the second digit is at fault. -/
theorem ofBytes_ignoresBlanks_digits :
    let octets := [0xEF, 0xBB, 0xBF, 0x24, 0x5B, 0x30, 0x31, 0x5D]
    let octets' := [0xEF, 0xBB, 0xBF, 0x20, 0x24, 0x5B, 0x30, 0x09, 0x31, 0x0D, 0x0A, 0x5D]
    (∀ t ∈ tokenize octets, t.kind ≠ .unknown) ∧ IsWidened octets octets' ∧
      tokenize octets' = tokenize octets ∧ ofBytes octets' = ofBytes octets := by
  intro octets octets'
  let ts : List Token := [⟨.root, "$"⟩, ⟨.openBracket, "["⟩, ⟨.integer, "0"⟩, ⟨.integer, "1"⟩,
    ⟨.closeBracket, "]"⟩]
  have htokens : tokenize octets = mark :: (ts ++ [endOfInput]) := by decide +kernel
  have hk : ∀ t ∈ tokenize octets, t.kind ≠ .unknown := by
    rw [htokens]
    decide
  have hwidens := Widens.insert (c := ' ') rfl <|
    .token (t := ⟨.root, "$"⟩) (decodes_encoded ['$']) <|
    .token (t := ⟨.openBracket, "["⟩) (decodes_encoded ['[']) <|
    .token (t := ⟨.integer, "0"⟩) (decodes_encoded ['0']) <| .insert (c := '\t') rfl <|
    .token (t := ⟨.integer, "1"⟩) (decodes_encoded ['1']) <|
    .insert (c := '\r') rfl <| .insert (c := '\n') rfl <|
    .token (t := ⟨.closeBracket, "]"⟩) (decodes_encoded [']']) .nil
  have hwidened : IsWidened octets octets' := @IsWidened.marked ts _ _ htokens hwidens
  exact ⟨hk, hwidened, (ofBytes_ignoresBlanks hk).2 octets' hwidened⟩

end JsonPath.Query
