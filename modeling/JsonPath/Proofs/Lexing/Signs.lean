import JsonPath.Proofs.Lexing.Recognition

/-!
# What string literals denote

Between its quotes, a string literal is a row of signs (`Sign`): characters as they stand, letters
behind a backslash, code points, and surrogate pairs. What each of them denotes is said here on its
own (`Sign.Denotes`). The lexer and the decoder go along the same signs, one after the other, and
there is no other way to part a literal into signs (`unescape_isSigned`). So what a literal denotes
is what its signs denote.
-/

namespace JsonPath.Token.Literal

open JsonPath.Text

/-! ## Signs -/

/-- A sign between the quotes of a string literal. -/
inductive Sign where
  /-- a character as it stands -/
  | plain (c : Char)
  /-- a letter behind a backslash -/
  | letter (l : Char)
  /-- the digits of a code point -/
  | code (ds : List Char)
  /-- the digits of the two halves of a surrogate pair -/
  | pair (ds es : List Char)
deriving Repr, DecidableEq

namespace Sign

/-- The characters that the sign is written with. -/
def spelling : Sign → List Char
  | plain c => [c]
  | letter l => ['\\', l]
  | code ds => '\\' :: 'u' :: ds
  | pair ds es => '\\' :: 'u' :: (ds ++ '\\' :: 'u' :: es)

/-- Between quotes of a sort, the sign denotes the character. -/
inductive Denotes (quote : Char) : Sign → Char → Prop
  | plain {c} (hc : ' ' ≤ c) (hquote : c ≠ quote) (hslash : c ≠ '\\') : Denotes quote (.plain c) c
  | backspace : Denotes quote (.letter 'b') '\x08'
  | formFeed : Denotes quote (.letter 'f') '\x0c'
  | lineFeed : Denotes quote (.letter 'n') '\n'
  | carriageReturn : Denotes quote (.letter 'r') '\r'
  | tab : Denotes quote (.letter 't') '\t'
  | slash : Denotes quote (.letter '/') '/'
  | backslash : Denotes quote (.letter '\\') '\\'
  | quote : Denotes quote (.letter quote) quote
  | code {ds c} (h : IsQuad ds c.toNat) : Denotes quote (.code ds) c
  | pair {ds es high low c} (h : IsQuad ds high) (hhigh : 0xD800 ≤ high ∧ high ≤ 0xDBFF)
    (h' : IsQuad es low) (hlow : 0xDC00 ≤ low ∧ low ≤ 0xDFFF)
    (hc : c.toNat = 0x10000 + (high - 0xD800) * 0x400 + (low - 0xDC00)) :
    Denotes quote (.pair ds es) c

end Sign

/-! ## The decoder's characters -/

/-- A character is the one of its code point. -/
theorem charOf_toNat (c : Char) : charOf c.toNat = c := by
  have hvalid : c.toNat.isValidChar := c.valid
  rw [charOf, if_pos hvalid, Char.ofNat_toNat]

theorem toNat_charOf {n : Nat} (h : n.isValidChar) : (charOf n).toNat = n := by
  rw [charOf, if_pos h, Char.toNat_ofNat, if_pos h]

theorem isHighSurrogate_iff {n : Nat} :
    isHighSurrogate n = true ↔ 0xD800 ≤ n ∧ n ≤ 0xDBFF := by
  simp [isHighSurrogate]

theorem isLowSurrogate_iff {n : Nat} : isLowSurrogate n = true ↔ 0xDC00 ≤ n ∧ n ≤ 0xDFFF := by
  simp [isLowSurrogate]

/-- No character is a half of a surrogate pair. -/
theorem not_isHighSurrogate (c : Char) : isHighSurrogate c.toNat = false := by
  have hvalid : c.toNat.isValidChar := c.valid
  rw [Bool.eq_false_iff, ne_eq, isHighSurrogate_iff]
  unfold Nat.isValidChar at hvalid
  omega

theorem not_isLowSurrogate (c : Char) : isLowSurrogate c.toNat = false := by
  have hvalid : c.toNat.isValidChar := c.valid
  rw [Bool.eq_false_iff, ne_eq, isLowSurrogate_iff]
  unfold Nat.isValidChar at hvalid
  omega

theorem hexValue?_lt {c : Char} {x : Nat} (h : hexValue? c = some x) : x < 16 := by
  have hle {a b : Char} (h : a ≤ b) : a.toNat ≤ b.toNat := h
  unfold hexValue? at h
  split_ifs at h with hdigit hsmall hlarge
  · have hc := hle hdigit.2
    cases h
    exact Nat.lt_of_le_of_lt (Nat.sub_le_sub_right hc _) (by decide)
  · have hc := hle hsmall.2
    cases h
    exact Nat.lt_of_le_of_lt (Nat.add_le_add_right (Nat.sub_le_sub_right hc _) _) (by decide)
  · have hc := hle hlarge.2
    cases h
    exact Nat.lt_of_le_of_lt (Nat.add_le_add_right (Nat.sub_le_sub_right hc _) _) (by decide)

/-- Four digits denote sixteen bits. -/
theorem IsQuad.lt {ds : List Char} {n : Nat} (h : IsQuad ds n) : n < 0x10000 := by
  obtain ⟨_, _, _, _, x, y, z, w, -, hx, hy, hz, hw, rfl⟩ := h.exists_digits
  have hx := hexValue?_lt hx
  have hy := hexValue?_lt hy
  have hz := hexValue?_lt hz
  have hw := hexValue?_lt hw
  omega

/-- A surrogate pair denotes a character of more than sixteen bits. -/
theorem surrogatePair_eq {high low : Nat} (hhigh : 0xD800 ≤ high ∧ high ≤ 0xDBFF)
    (hlow : 0xDC00 ≤ low ∧ low ≤ 0xDFFF) :
    surrogatePair high low = 0x10000 + (high - 0xD800) * 0x400 + (low - 0xDC00) ∧
      0x10000 ≤ surrogatePair high low ∧ surrogatePair high low ≤ 0x10FFFF := by
  unfold surrogatePair
  omega

/-! ## Signs and rows of characters -/

section Rows

variable {quote : Char}

/-- What a sign denotes is what its characters denote to the decoder. -/
theorem Sign.Denotes.denotes (hq : quote = '\'' ∨ quote = '"') {u : Sign} {c : Char}
    (h : u.Denotes quote c) : Literal.Denotes quote u.spelling c := by
  cases h with
  | plain hc hquote hslash =>
    refine .plain hquote hslash ?_
    -- The quotes are apart in the test of plain characters: the one that the string is not written
    -- in may stand for itself.
    by_cases hdouble : c = '"'
    · simp [hdouble]
    · by_cases hsingle : c = '\''
      · simp [hsingle]
      · simp [isPlain, hc, hdouble, hsingle, hslash]
  | backspace => exact .letter (by decide) (by simp [isEscapeLetter])
  | formFeed => exact .letter (by decide) (by simp [isEscapeLetter])
  | lineFeed => exact .letter (by decide) (by simp [isEscapeLetter])
  | carriageReturn => exact .letter (by decide) (by simp [isEscapeLetter])
  | tab => exact .letter (by decide) (by simp [isEscapeLetter])
  | slash => exact .letter (by decide) (by simp [isEscapeLetter])
  | backslash => exact .letter (by decide) (by simp [isEscapeLetter])
  | quote =>
    rcases hq with rfl | rfl
    · exact .letter (by decide) (by decide)
    · exact .letter (by decide) (by decide)
  | @code ds c h =>
    have hdenotes : Literal.Denotes quote (Sign.code ds).spelling (charOf c.toNat) :=
      .code h (not_isHighSurrogate c) (not_isLowSurrogate c)
    rwa [charOf_toNat] at hdenotes
  | @pair ds es high low c h hhigh h' hlow hc =>
    have hdenotes : Literal.Denotes quote (Sign.pair ds es).spelling
        (charOf (surrogatePair high low)) :=
      .pair h (isHighSurrogate_iff.mpr hhigh) h' (isLowSurrogate_iff.mpr hlow)
    rwa [(surrogatePair_eq hhigh hlow).1, ← hc, charOf_toNat] at hdenotes

/-- A row of characters that denotes one is a sign. -/
theorem exists_sign (hq : quote = '\'' ∨ quote = '"') {ws : List Char} {c : Char}
    (h : Literal.Denotes quote ws c) : ∃ u : Sign, u.spelling = ws ∧ u.Denotes quote c := by
  cases h with
  | plain hquote hslash h =>
    refine ⟨.plain c, rfl, .plain ?_ hquote hslash⟩
    simp only [isPlain, Bool.or_eq_true, Bool.and_eq_true, decide_eq_true_eq, beq_iff_eq] at h
    obtain (h | rfl) | rfl := h
    · exact h.1.1.1
    · decide
    · decide
  | @letter l hu h =>
    refine ⟨.letter l, rfl, ?_⟩
    simp only [isEscapeLetter, Bool.or_eq_true, beq_iff_eq] at h
    -- These are the letters in the order of the test, with the quote in front.
    obtain rfl | (((((rfl | rfl) | rfl) | rfl) | rfl) | rfl) | rfl := h
    · rcases hq with rfl | rfl
      · exact .quote
      · exact .quote
    · exact .backspace
    · exact .formFeed
    · exact .lineFeed
    · exact .carriageReturn
    · exact .tab
    · exact .slash
    · exact .backslash
  | @code ds n h hhigh hlow =>
    refine ⟨.code ds, rfl, .code ?_⟩
    rw [toNat_charOf]
    · exact h
    · have hlt := h.lt
      rw [Bool.eq_false_iff, ne_eq, isHighSurrogate_iff] at hhigh
      rw [Bool.eq_false_iff, ne_eq, isLowSurrogate_iff] at hlow
      unfold Nat.isValidChar
      omega
  | @pair ds high es low h hhigh h' hlow =>
    rw [isHighSurrogate_iff] at hhigh
    rw [isLowSurrogate_iff] at hlow
    obtain ⟨heq, hlower, hupper⟩ := surrogatePair_eq hhigh hlow
    refine ⟨.pair ds es, rfl, .pair h hhigh h' hlow ?_⟩
    rw [toNat_charOf, heq]
    unfold Nat.isValidChar
    omega

/-- The text of a string is spelled by signs, one for each character. -/
theorem exists_signs (hq : quote = '\'' ∨ quote = '"') {ws cs : List Char}
    (h : Inside quote ws cs) :
    ∃ us : List Sign, us.flatMap Sign.spelling = ws ∧ List.Forall₂ (Sign.Denotes quote) us cs := by
  induction h with
  | nil => exact ⟨[], rfl, .nil⟩
  | cons head _ ih =>
    obtain ⟨u, rfl, hu⟩ := exists_sign hq head
    obtain ⟨us, rfl, hus⟩ := ih
    exact ⟨u :: us, rfl, .cons hu hus⟩

/-- Every sign of a string denotes something. -/
theorem exists_denotes {us : List Sign} {cs : List Char}
    (h : List.Forall₂ (Sign.Denotes quote) us cs) : ∀ u ∈ us, ∃ c, u.Denotes quote c := by
  induction h with
  | nil => exact nofun
  | cons hu _ ih => exact List.forall_mem_cons.mpr ⟨⟨_, hu⟩, ih⟩

/-! ## One way only -/

/-- The sign that a row of characters starts with, and what is behind it. -/
def Sign.first? : List Char → Option (Sign × List Char)
  | '\\' :: 'u' :: cs =>
    if isHighSurrogate (hexQuad cs) then some (pair (cs.take 4) ((cs.drop 6).take 4), cs.drop 10)
    else some (code (cs.take 4), cs.drop 4)
  | '\\' :: l :: cs => some (letter l, cs)
  | c :: cs => some (plain c, cs)
  | [] => none

/-- The first sign of a text is found, whatever follows. -/
theorem Sign.Denotes.first?_eq (hq : quote = '\'' ∨ quote = '"') {u : Sign} {c : Char}
    (h : u.Denotes quote c) (cs : List Char) : first? (u.spelling ++ cs) = some (u, cs) := by
  cases h with
  | plain hc hquote hslash =>
    rw [spelling, List.singleton_append, first?]
    · exact fun _ h => absurd h hslash
    · exact fun _ _ h => absurd h hslash
  | @code ds c h =>
    have hhigh : isHighSurrogate c.toNat = false := not_isHighSurrogate c
    rw [spelling, List.cons_append, List.cons_append, first?, h.hexQuad_eq, hhigh,
      if_neg Bool.false_ne_true, List.take_left' h.length_eq, List.drop_left' h.length_eq]
  | @pair ds es high low c h hhigh h' hlow hc =>
    rw [spelling, List.cons_append, List.cons_append, first?, h.drop_first, h.drop_both h',
      List.take_left' h'.length_eq, List.append_assoc, h.hexQuad_eq,
      if_pos (isHighSurrogate_iff.mpr hhigh), List.take_left' h.length_eq]
  | quote => rcases hq with rfl | rfl <;> rfl
  | _ => rfl

/-- There is only one way to part a row of characters into signs. -/
theorem signs_unique (hq : quote = '\'' ∨ quote = '"') {us vs : List Sign}
    (hus : ∀ u ∈ us, ∃ c, u.Denotes quote c) (hvs : ∀ v ∈ vs, ∃ c, v.Denotes quote c)
    (h : vs.flatMap Sign.spelling = us.flatMap Sign.spelling) : vs = us := by
  -- the characters alone tell which sign is the first
  have hfirst := congrArg Sign.first? h
  induction us generalizing vs with
  | nil =>
    cases vs with
    | nil => rfl
    | cons v vs =>
      obtain ⟨⟨c, hv⟩, -⟩ := List.forall_mem_cons.mp hvs
      rw [List.flatMap_cons, hv.first?_eq hq] at hfirst
      cases hfirst
  | cons u us ih =>
    obtain ⟨⟨c, hu⟩, hus'⟩ := List.forall_mem_cons.mp hus
    rw [List.flatMap_cons, hu.first?_eq hq] at hfirst
    cases vs with
    | nil => cases hfirst
    | cons v vs =>
      obtain ⟨⟨c', hv⟩, hvs'⟩ := List.forall_mem_cons.mp hvs
      rw [List.flatMap_cons, hv.first?_eq hq] at hfirst
      obtain ⟨rfl, hrest⟩ := Prod.mk.inj (Option.some.inj hfirst)
      exact congrArg (v :: ·) (ih hus' hvs' hrest (congrArg Sign.first? hrest))

end Rows

/-! ## Main statement -/

/-- The text of a literal is parted into signs between quotes, and denotes what they denote. -/
structure IsSigned (text : String) (quote : Char) (us : List Sign) (cs : List Char) : Prop where
  /-- both quotes are of one sort -/
  quotes : quote = '\'' ∨ quote = '"'
  /-- and the signs are between them -/
  text_eq : text.toList = quote :: (us.flatMap Sign.spelling ++ [quote])
  /-- each of them denotes one character -/
  denotes : List.Forall₂ (Sign.Denotes quote) us cs
  /-- and decoding gives these characters -/
  unescape_eq : unescape text = .ofList cs
  /-- the lexer goes from sign to sign, whatever is behind them -/
  lexer : ∀ u ∈ us, ∀ gs : List Glyph, stringTail quote (u.spelling.map some ++ gs)
    = (stringTail quote gs).behind u.spelling.length
  /-- and so does the decoder -/
  decoder : ∀ u ∈ us, ∀ c, u.Denotes quote c → ∀ rest,
    decode (u.spelling ++ rest) = c :: decode rest
  /-- no other signs are written like that -/
  unique : ∀ vs, (∀ v ∈ vs, ∃ c, v.Denotes quote c) →
    vs.flatMap Sign.spelling = us.flatMap Sign.spelling → vs = us
  /-- the replacement character is there only if it stands in the literal or is its code point -/
  replacement : ∀ u c, (u, c) ∈ us.zip cs → c = '\uFFFD' →
    u = .plain '\uFFFD' ∨ ∃ ds, u = .code ds ∧ IsQuad ds 0xFFFD
  /-- and surrogate pairs denote what needs more than sixteen bits -/
  supplementary : ∀ ds es, Sign.pair ds es ∈ us → ∃ high low, IsQuad ds high ∧ IsQuad es low ∧
    surrogatePair high low = 0x10000 + (high - 0xD800) * 0x400 + (low - 0xDC00) ∧
    0x10000 ≤ surrogatePair high low ∧ surrogatePair high low ≤ 0x10FFFF

/-- **Signs of a string.** Every string among the tokens of a text is parted into signs and
denotes what they denote. -/
theorem unescape_isSigned {octets : List UInt8} {t : Token} (ht : t ∈ tokenize octets)
    (hk : t.kind = .string) : ∃ quote us cs, IsSigned t.text quote us cs := by
  have hlexeme := lexeme_of_mem_tokenize ht (hk ▸ rfl)
  rw [hk] at hlexeme
  obtain ⟨quote, ws, cs, hq, htext, hinside⟩ : ∃ quote ws cs, (quote = '\'' ∨ quote = '"') ∧
      t.text.toList = quote :: (ws ++ [quote]) ∧ Inside quote ws cs := by
    generalize t.text.toList = text at hlexeme
    cases hlexeme with
    | string h => cases h with | mk hq hinside => exact ⟨_, _, _, hq, rfl, hinside⟩
  obtain ⟨us, rfl, hus⟩ := exists_signs hq hinside
  obtain ⟨-, hzip⟩ := List.forall₂_iff_zip.mp hus
  have hdenote := exists_denotes hus
  exact ⟨quote, us, cs, {
    quotes := hq
    text_eq := htext
    denotes := hus
    unescape_eq := by
      rw [unescape, htext, List.drop_succ_cons, List.drop_zero, List.dropLast_concat,
        decode_inside hinside]
    lexer := by
      intro u hu gs
      obtain ⟨c, hc⟩ := hdenote u hu
      have hslash : quote ≠ '\\' := by rcases hq with rfl | rfl <;> decide
      exact stringTail_denotes hslash (hc.denotes hq) gs
    decoder := fun u _ c hc rest => decode_denotes (hc.denotes hq) rest
    unique := fun vs hvs h => signs_unique hq hdenote hvs h
    replacement := by
      -- The replacement character is plain, or spelled by its code: no pair has so small a number.
      rintro u c hmem rfl
      cases hzip hmem with
      | plain => exact .inl rfl
      | code h => exact .inr ⟨_, rfl, h⟩
      | pair h hhigh h' hlow hc =>
        have hcode : '\uFFFD'.toNat = 0xFFFD := rfl
        omega
      | quote => exact absurd hq (by decide)
    supplementary := by
      intro ds es hmem
      obtain ⟨c, hc⟩ := hdenote _ hmem
      cases hc with
      | pair h hhigh h' hlow hc => exact ⟨_, _, h, h', surrogatePair_eq hhigh hlow⟩ }⟩

/-- A character as it stands, a line feed and a surrogate pair. -/
theorem unescape_isSigned_row :
    let text := "'a\\n\\uD83D\\uDE4F'"
    let t : Token := ⟨.string, text⟩
    t ∈ tokenize text.toUTF8.toList ∧ t.kind = .string ∧
      ∃ quote us cs, IsSigned t.text quote us cs := by
  intro text t
  have htokens : tokenize text.toUTF8.toList = [t, endOfInput] := by cbv
  have ht : t ∈ tokenize text.toUTF8.toList := htokens ▸ List.mem_cons_self
  exact ⟨ht, rfl, unescape_isSigned ht rfl⟩

end JsonPath.Token.Literal
