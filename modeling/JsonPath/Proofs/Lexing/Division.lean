import JsonPath.Proofs.Lexing.Literal

/-!
# The division of a text

Cutting octets into tokens neither loses nor makes up anything: between blanks the tokens show the
text that the octets encode, from its first character to its last, whatever is malformed in it
(`tokenize_lossless`).

Behind this is where each token ends. However a token breaks off, what was read of it is there, and
it is made of characters (`covers_scanChar`). So a text is divided into blanks, gaps, each of which
is a token by itself, and tokens that are made of characters (`Divides`).
-/

namespace JsonPath.Token

open JsonPath.Text

/-! ## Glyphs that are characters -/

/-- The first glyphs, so many of them, are there and are characters. -/
def Covers (n : Nat) (gs : List Glyph) : Prop :=
  ∃ (cs : List Char) (rest : List Glyph), gs = cs.map some ++ rest ∧ cs.length = n

section Parts

variable {m n : Nat} {gs : List Glyph}

theorem covers_zero (gs : List Glyph) : Covers 0 gs := ⟨[], gs, rfl, rfl⟩

/-- What is covered can be put together from stretches that follow each other. -/
theorem Covers.append (h : Covers m gs) (h' : Covers n (gs.drop m)) : Covers (m + n) gs := by
  obtain ⟨cs, rest, rfl, rfl⟩ := h
  rw [List.drop_left' (List.length_map _)] at h'
  obtain ⟨ds, rest', rfl, rfl⟩ := h'
  exact ⟨cs ++ ds, rest', by simp, List.length_append⟩

theorem Covers.cons (h : Covers n gs) (c : Char) : Covers (1 + n) (some c :: gs) :=
  .append (m := 1) ⟨[c], gs, rfl, rfl⟩ h

/-- What is covered of a part is covered of the whole. -/
theorem Covers.of_take (h : Covers n (gs.take m)) : Covers n gs := by
  obtain ⟨cs, rest, htake, rfl⟩ := h
  refine ⟨cs, rest ++ gs.drop m, ?_, rfl⟩
  rw [← List.append_assoc, ← htake, List.take_append_drop]

/-- A run of characters is covered: an octet that is none ends it. -/
theorem covers_run (p : Char → Bool) (gs : List Glyph) : Covers (run p gs) gs := by
  induction gs with
  | nil => exact covers_zero []
  | cons g gs ih =>
    cases g with
    | none => exact covers_zero _
    | some c =>
      by_cases hc : p c = true
      · have hrun : run p (some c :: gs) = 1 + run p gs := by
          simp [run, Glyph.isIn, hc, Nat.add_comm]
        exact hrun ▸ ih.cons c
      · have hrun : run p (some c :: gs) = 0 := by simp [run, Glyph.isIn, hc]
        exact hrun ▸ covers_zero _

/-! ## Parts of numbers -/

/-- Digits are characters, and so is everything else that a scanner takes, as the theorems that
follow say. -/
theorem covers_someDigits (gs : List Glyph) : Covers (someDigits gs).length gs :=
  covers_run isDigit gs

theorem covers_fraction (gs : List Glyph) : Covers (fraction gs).length gs := by
  unfold fraction
  split
  · next rest => exact (covers_someDigits rest).cons '.'
  · exact covers_zero gs

theorem covers_signedDigits (gs : List Glyph) : Covers (signedDigits gs).length gs := by
  unfold signedDigits
  split
  · next rest => exact (covers_someDigits rest).cons '-'
  · next rest => exact (covers_someDigits rest).cons '+'
  · exact covers_someDigits gs

theorem covers_exponent (gs : List Glyph) : Covers (exponent gs).length gs := by
  unfold exponent
  split
  · next rest => exact (covers_signedDigits rest).cons 'e'
  · next rest => exact (covers_signedDigits rest).cons 'E'
  · exact covers_zero gs

theorem covers_decimals (gs : List Glyph) : Covers (decimals gs).length gs := by
  simp only [decimals]
  split
  · exact (covers_fraction gs).append (covers_exponent _)
  · exact covers_fraction gs

/-! ## Parts of strings -/

theorem covers_hexLength (gs : List Glyph) : Covers (hexLength gs) gs := (covers_run _ _).of_take

theorem covers_lowSurrogate (gs : List Glyph) : Covers (lowSurrogate gs).length gs := by
  unfold lowSurrogate
  split
  · next rest => exact .append (m := 2) ⟨['\\', 'u'], rest, rfl, rfl⟩ (covers_hexLength rest)
  · next rest _ => exact (covers_zero rest).cons '\\'
  · exact covers_zero gs

/-- The digits of an escaped code unit, and those of its pair. -/
theorem covers_escapedCode (gs : List Glyph) : Covers (escapedCode gs).length gs := by
  unfold escapedCode
  cases hquad : hexQuad? gs with
  | none => exact covers_hexLength gs
  | some n =>
    obtain ⟨ds, rest, hgs, hds⟩ := Literal.exists_quad hquad
    have hfour : Covers 4 gs := ⟨ds, rest, hgs, hds.length_eq⟩
    simp only
    split
    · exact hfour.append (covers_lowSurrogate _)
    · exact hfour

/-- An escape, of which at least the sign is taken. -/
theorem covers_escape (quote : Char) (gs : List Glyph) : Covers (escape quote gs).length gs := by
  unfold escape
  split
  · next rest => exact (covers_escapedCode rest).cons 'u'
  · next c rest _ =>
    split
    · exact (covers_zero rest).cons c
    · exact covers_zero _
  · exact covers_zero gs

/-- A string that breaks off, inside of an escape or in front of a glyph that may not stand in it,
takes up what was read of it. -/
theorem covers_stringTail (quote : Char) (gs : List Glyph) :
    Covers (stringTail quote gs).length gs := by
  induction gs using stringTail.induct quote with
  | case1 =>
    rw [stringTail]
    exact covers_zero _
  | case2 =>
    rw [stringTail]
    exact covers_zero _
  | case3 c rest hc =>
    rw [stringTail, if_pos hc]
    exact (covers_zero rest).cons c
  | case4 c rest hc hs e he ih =>
    have he : (escape quote rest).complete = true := he
    rw [stringTail, if_neg hc, if_pos hs]
    simp only [he, if_true]
    -- The string goes on behind the escape, and the escape behind the backslash.
    exact ((covers_escape quote rest).cons c).append (by rwa [Nat.add_comm 1, List.drop_succ_cons])
  | case5 c rest hc hs e he =>
    have he : ¬ (escape quote rest).complete = true := he
    rw [stringTail, if_neg hc, if_pos hs]
    simp only [if_neg he]
    exact (covers_escape quote rest).cons c
  | case6 c rest hc hs hp ih =>
    rw [stringTail, if_neg hc, if_neg hs, if_pos hp]
    exact ih.cons c
  | case7 c rest hc hs hp =>
    rw [stringTail, if_neg hc, if_neg hs, if_neg hp]
    exact covers_zero _

/-! ## Tokens -/

/-- What follows the whole part of a number. -/
theorem covers_numberTail (whole : Kind) (gs : List Glyph) : Covers (numberTail whole gs).2 gs :=
  covers_decimals gs

theorem covers_negativeTail (gs : List Glyph) : Covers (negativeTail gs).2 gs := by
  unfold negativeTail
  split
  · next rest => exact (covers_numberTail .unknown rest).cons '0'
  · simp only
    split
    · exact covers_zero gs
    · exact (covers_run isDigit gs).append (covers_numberTail .integer _)

theorem covers_pairTail (second : Char) (paired alone : Kind) (gs : List Glyph) :
    Covers (pairTail second paired alone gs).2 gs := by
  unfold pairTail
  split
  · next c rest =>
    split
    · exact (covers_zero rest).cons c
    · exact covers_zero _
  · exact covers_zero gs

/-- What follows the first character of a token is there and is made of characters, even if the
token breaks off. -/
theorem covers_scanChar (c : Char) (gs : List Glyph) : Covers (scanChar c gs).2 gs := by
  unfold scanChar
  split
  case h_1 => exact covers_numberTail _ gs
  case h_2 => exact covers_negativeTail gs
  case h_20 => exact covers_stringTail '\'' gs
  case h_21 => exact covers_stringTail '"' gs
  case h_22 =>
    split
    · exact (covers_run isDigit gs).append (covers_numberTail .integer _)
    · split
      · exact covers_run isNameChar gs
      · exact covers_zero gs
  all_goals first
    | exact covers_pairTail _ _ _ gs
    | exact covers_zero gs

end Parts

/-! ## Division -/

/-- Glyphs are divided into tokens. In front of each token and behind the last one there may be
blanks. -/
inductive Divides : List Glyph → List Token → Prop
  /-- there are no more tokens -/
  | blanks {bs : List Char} (hb : ∀ b ∈ bs, isBlank b = true) : Divides (bs.map some) []
  /-- a gap is a token by itself -/
  | gap {bs : List Char} {gs ts} (hb : ∀ b ∈ bs, isBlank b = true) (tail : Divides gs ts) :
    Divides (bs.map some ++ none :: gs) (⟨.unknown, "\uFFFD"⟩ :: ts)
  /-- any other token is made of characters, as many as it takes up -/
  | token {bs cs : List Char} {c k gs ts} (hb : ∀ b ∈ bs, isBlank b = true)
    (hc : isBlank c = false) (hk : scanChar c (cs.map some ++ gs) = (k, cs.length))
    (tail : Divides gs ts) :
    Divides (bs.map some ++ some c :: (cs.map some ++ gs)) (⟨k, .ofList (c :: cs)⟩ :: ts)

/-- Blanks stand in front of every text, be they none. -/
theorem exists_blanks (gs : List Glyph) : ∃ bs : List Char, (∀ b ∈ bs, isBlank b = true) ∧
    gs = bs.map some ++ gs.dropWhile (Glyph.isIn isBlank) := by
  induction gs with
  | nil => exact ⟨[], nofun, rfl⟩
  | cons g gs ih =>
    by_cases hg : g.isIn isBlank = true
    · obtain ⟨bs, hbs, hgs⟩ := ih
      cases g with
      | none => cases hg
      | some b =>
        refine ⟨b :: bs, List.forall_mem_cons.mpr ⟨hg, hbs⟩, ?_⟩
        rw [List.dropWhile_cons_of_pos hg, List.map_cons, List.cons_append, ← hgs]
    · exact ⟨[], nofun, by rw [List.dropWhile_cons_of_neg hg]; rfl⟩

/-- The tokens that are cut out of glyphs are a division of them. -/
theorem divides_lexemes (gs : List Glyph) : Divides gs (lexemes gs) := by
  induction gs using lexemes.induct with
  | case1 gs hn =>
    rw [lexemes_of_none hn]
    obtain ⟨bs, hbs, hgs⟩ := exists_blanks gs
    unfold next? at hn
    split at hn
    · next hd =>
      rw [hgs, hd, List.append_nil]
      exact .blanks hbs
    · cases hn
  | case2 gs t rest hs ih =>
    rw [lexemes_of_some hs]
    obtain ⟨bs, hbs, hgs⟩ := exists_blanks gs
    unfold next? at hs
    split at hs
    · cases hs
    · next first tail hd =>
      rw [hgs, hd]
      obtain ⟨rfl, rfl⟩ := Prod.mk.inj (Option.some.inj hs)
      cases first with
      | none => exact .gap hbs ih
      | some c =>
        -- The first glyph behind the blanks is no blank.
        have hc : isBlank c = false := by
          have hne : gs.dropWhile (Glyph.isIn isBlank) ≠ [] := hd ▸ List.cons_ne_nil _ _
          have hhead := List.head_dropWhile_not (Glyph.isIn isBlank) hne
          simp only [hd, List.head_cons] at hhead
          exact hhead
        obtain ⟨cs, rest, rfl, hlength⟩ := covers_scanChar c tail
        have hscan : scanChar c (cs.map some ++ rest) = (_, cs.length) :=
          Prod.ext rfl hlength.symm
        rw [scan, hscan] at ih ⊢
        rw [List.drop_left' (List.length_map _)] at ih ⊢
        rw [List.take_left' (List.length_map _), ← List.map_cons, textOf_map_some]
        exact .token hbs hc hscan ih

/-- A text without gaps is made of characters, and a text with gaps has unknown tokens. -/
theorem Divides.eq_map_some {gs : List Glyph} {ts : List Token} (h : Divides gs ts)
    (hts : ∀ t ∈ ts, t.kind ≠ .unknown) : ∃ cs : List Char, gs = cs.map some := by
  induction h with
  | @blanks bs => exact ⟨bs, rfl⟩
  | gap => exact absurd rfl (hts _ List.mem_cons_self)
  | @token bs cs c _ _ _ _ _ _ _ ih =>
    obtain ⟨ds, rfl⟩ := ih fun t ht => hts t (List.mem_cons_of_mem _ ht)
    exact ⟨bs ++ c :: (cs ++ ds), by simp⟩

/-! ## Texts -/

/-- A text is laid out as tokens, with blanks in front of each and behind the last. -/
inductive LaidOut : List Char → List Token → Prop
  | blanks {bs : List Char} (hb : ∀ b ∈ bs, isBlank b = true) : LaidOut bs []
  | token {bs cs : List Char} {t : Token} {ts} (hb : ∀ b ∈ bs, isBlank b = true) (ht : t.text ≠ "")
    (tail : LaidOut cs ts) : LaidOut (bs ++ t.text.toList ++ cs) (t :: ts)

theorem map_toChar (cs : List Char) : (cs.map some).map Glyph.toChar = cs := by
  rw [List.map_map]
  exact List.map_id cs

/-- Tokens that divide a text are laid out in it. -/
theorem Divides.laidOut {gs : List Glyph} {ts : List Token} (h : Divides gs ts) :
    LaidOut (gs.map Glyph.toChar) ts := by
  induction h with
  | blanks hb =>
    rw [map_toChar]
    exact .blanks hb
  | gap hb _ ih =>
    rw [List.map_append, map_toChar, List.map_cons, ← List.singleton_append, ← List.append_assoc]
    exact .token (t := ⟨.unknown, "\uFFFD"⟩) hb (by decide) ih
  | @token bs cs c k gs ts hb _ _ _ ih =>
    have htext : (String.ofList (c :: cs)).toList = c :: cs := String.toList_ofList
    have hne : String.ofList (c :: cs) ≠ "" := by
      intro h
      rw [h] at htext
      cases htext
    have hlaid := LaidOut.token (t := ⟨k, .ofList (c :: cs)⟩) hb hne ih
    rw [htext, List.append_assoc] at hlaid
    rw [List.map_append, map_toChar, List.map_cons, List.map_append, map_toChar]
    exact hlaid

/-! ## One token at a time -/

namespace Lexer

/-- The position behind so many tokens more. -/
def skip : Nat → Lexer → Lexer
  | 0, l => l
  | n + 1, l => skip n l.next.2

/-- A step takes the first token off the list. At the end it stays there. -/
theorem all_eq (l : Lexer) :
    (l.all = [endOfInput] ∧ l.next = (endOfInput, ⟨false, []⟩)) ∨ l.all = l.next.1 :: l.next.2.all := by
  obtain ⟨marked, rest⟩ := l
  cases marked with
  | true => exact .inr rfl
  | false =>
    cases hn : next? rest with
    | none =>
      have hall : (Lexer.mk false rest).all = [endOfInput] := by
        rw [all, lexemes_of_none hn]
        rfl
      exact .inl ⟨hall, by simp [next, hn]⟩
    | some s =>
      have hall : (Lexer.mk false rest).all = s.1 :: (Lexer.mk false s.2).all := by
        rw [all, lexemes_of_some hn]
        rfl
      exact .inr (by simpa [next, hn] using hall)

/-- What is found one at a time are the tokens of the list, and behind them the end, again and
again. -/
theorem peek_skip (n : Nat) (l : Lexer) : (l.skip n).peek = l.all.getD n endOfInput := by
  induction n generalizing l with
  | zero =>
    rcases l.all_eq with ⟨hall, hnext⟩ | hall
    · rw [hall, skip, peek, hnext]
      rfl
    · rw [hall]
      rfl
  | succ n ih =>
    rw [skip, ih]
    rcases l.all_eq with ⟨hall, hnext⟩ | hall
    · have hend : (Lexer.mk false []).all = [endOfInput] := by
        rw [all, lexemes_of_none rfl]
        rfl
      rw [hall, hnext, hend]
      cases n <;> rfl
    · rw [hall, List.getD_cons_succ]

end Lexer

/-! ## Main statement -/

/-- **Nothing is lost.** However malformed the octets are, their tokens are the byte order mark
if they start with it, tokens that with blanks between them make up the text that the octets
show, and the end of the input. They are also what is found one at a time. -/
theorem tokenize_lossless (octets : List UInt8) :
    ∃ ts : List Token,
      tokenize octets
        = (if byteOrderMark.isPrefixOf octets then [mark] else []) ++ ts ++ [endOfInput] ∧
      (∀ t ∈ ts, t.kind ≠ .byteOrderMark ∧ t.kind ≠ .endOfInput) ∧
      LaidOut ((readings (Reader.ofBytes octets).source).map fun r => Glyph.toChar r.char?) ts ∧
      ∀ n, ((Lexer.ofBytes octets).skip n).peek = (tokenize octets).getD n endOfInput := by
  have hmarked : (Lexer.ofBytes octets).marked = byteOrderMark.isPrefixOf octets := by
    rw [Lexer.ofBytes, Reader.ofBytes]
    cases h : byteOrderMark.isPrefixOf octets <;> rfl
  have hshown : (Lexer.ofBytes octets).rest.map Glyph.toChar
      = (readings (Reader.ofBytes octets).source).map fun r => Glyph.toChar r.char? := by
    rw [Lexer.ofBytes, Reader.ofBytes]
    cases h : byteOrderMark.isPrefixOf octets <;> exact List.map_map
  refine ⟨lexemes (Lexer.ofBytes octets).rest, ?_, fun t ht => ?_, ?_, fun n => ?_⟩
  · rw [tokenize, Lexer.all, hmarked]
  · exact ⟨(isInner_of_mem_lexemes ht).ne_mark, (isInner_of_mem_lexemes ht).ne_end⟩
  · rw [← hshown]
    exact (divides_lexemes _).laidOut
  · exact Lexer.peek_skip n _

end JsonPath.Token
