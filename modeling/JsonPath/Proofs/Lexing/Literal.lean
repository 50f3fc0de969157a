import JsonPath.Proofs.Lexing
import JsonPath.Token.Literal

/-!
# The inside of a string literal

What the lexer accepts between quotes is a row of signs, each of which denotes one character
(`Denotes`, `Inside`): a character as it stands, a letter behind a backslash, a code point, or a
surrogate pair. Decoding goes along the same signs, so it never meets anything else
(`decode_inside`).
-/

namespace JsonPath.Token.Literal

open JsonPath.Text

/-! ## Hexadecimal digits -/

/-- Four hexadecimal digits that denote a number. -/
structure IsQuad (ds : List Char) (n : Nat) : Prop where
  length_eq : ds.length = 4
  value_eq : hexQuad? (ds.map some) = some n

namespace IsQuad

variable {ds : List Char} {n : Nat}

theorem exists_digits (h : IsQuad ds n) : ∃ a b c d x y z w, ds = [a, b, c, d] ∧
    hexValue? a = some x ∧ hexValue? b = some y ∧ hexValue? c = some z ∧ hexValue? d = some w ∧
    n = 0x1000 * x + 0x100 * y + 0x10 * z + w := by
  obtain ⟨hlength, hvalue⟩ := h
  match ds, hlength with
  | [a, b, c, d], _ =>
    simp only [List.map_cons, List.map_nil, hexQuad?, Option.bind_eq_bind, Option.bind_eq_some_iff,
      Option.pure_def, Option.some.injEq] at hvalue
    obtain ⟨x, hx, y, hy, z, hz, w, hw, rfl⟩ := hvalue
    exact ⟨a, b, c, d, x, y, z, w, rfl, hx, hy, hz, hw, rfl⟩

/-- Four digits have their value, whatever follows. -/
theorem hexQuad_eq (h : IsQuad ds n) (cs : List Char) : hexQuad (ds ++ cs) = n := by
  obtain ⟨a, b, c, d, x, y, z, w, rfl, hx, hy, hz, hw, rfl⟩ := h.exists_digits
  simp only [hexQuad, List.cons_append, List.nil_append, List.take_succ_cons, List.take_zero,
    List.filterMap_cons, List.filterMap_nil, hx, hy, hz, hw, List.foldl_cons, List.foldl_nil]
  omega

theorem hexQuad?_append (h : IsQuad ds n) (gs : List Glyph) :
    hexQuad? (ds.map some ++ gs) = some n := by
  obtain ⟨_, _, _, _, _, _, _, _, rfl, _⟩ := h.exists_digits
  exact h.value_eq

theorem hexLength_eq (h : IsQuad ds n) (gs : List Glyph) : hexLength (ds.map some ++ gs) = 4 := by
  obtain ⟨a, b, c, d, x, y, z, w, rfl, hx, hy, hz, hw, -⟩ := h.exists_digits
  simp [hexLength, run, Glyph.isIn, hx, hy, hz, hw]

/-- The second half of a surrogate pair stands behind the first and two more characters. -/
theorem drop_first (h : IsQuad ds n) (es cs : List Char) :
    ((ds ++ '\\' :: 'u' :: es) ++ cs).drop 6 = es ++ cs := by
  obtain ⟨_, _, _, _, _, _, _, _, rfl, _⟩ := h.exists_digits
  rfl

theorem drop_both {es : List Char} {m : Nat} (h : IsQuad ds n) (h' : IsQuad es m)
    (cs : List Char) : ((ds ++ '\\' :: 'u' :: es) ++ cs).drop 10 = cs := by
  rw [← List.drop_drop (i := 4) (j := 6), h.drop_first, List.drop_left' h'.length_eq]

end IsQuad

/-- Where four digits are found there are four of them. -/
theorem exists_quad {gs : List Glyph} {n : Nat} (h : hexQuad? gs = some n) :
    ∃ ds rest, gs = ds.map some ++ rest ∧ IsQuad ds n := by
  match gs with
  | some a :: some b :: some c :: some d :: rest => exact ⟨[a, b, c, d], rest, rfl, rfl, h⟩

/-! ## Signs -/

/-- Between quotes of a sort, the characters are one sign and denote a character. -/
inductive Denotes (quote : Char) : List Char → Char → Prop
  | plain {c} (hc : c ≠ quote) (hs : c ≠ '\\') (h : (isPlain c || c == '"' || c == '\'') = true) :
    Denotes quote [c] c
  | letter {l} (hu : l ≠ 'u') (h : (l == quote || isEscapeLetter l) = true) :
    Denotes quote ['\\', l] (escaped l)
  | code {ds n} (h : IsQuad ds n) (hhigh : isHighSurrogate n = false)
    (hlow : isLowSurrogate n = false) : Denotes quote ('\\' :: 'u' :: ds) (charOf n)
  | pair {ds high es low} (h : IsQuad ds high) (hhigh : isHighSurrogate high = true)
    (h' : IsQuad es low) (hlow : isLowSurrogate low = true) :
    Denotes quote ('\\' :: 'u' :: (ds ++ '\\' :: 'u' :: es)) (charOf (surrogatePair high low))

/-- Between quotes of a sort, the characters are a row of signs and denote characters. -/
inductive Inside (quote : Char) : List Char → List Char → Prop
  | nil : Inside quote [] []
  | cons {ws c vs cs} (head : Denotes quote ws c) (tail : Inside quote vs cs) :
    Inside quote (ws ++ vs) (c :: cs)

/-! ## Decoding -/

section Decoding

variable {quote : Char}

/-- The text of a character is decoded to it, whatever follows. -/
theorem decode_denotes {ws : List Char} {c : Char} (h : Denotes quote ws c) (cs : List Char) :
    decode (ws ++ cs) = c :: decode cs := by
  cases h with
  | plain _ hs _ =>
    rw [List.singleton_append, decode]
    · exact fun h _ => hs h
    · exact fun _ h _ => hs h
    · exact fun _ _ h _ => hs h
  | letter hu _ =>
    rw [List.cons_append, List.singleton_append, decode]
    exact fun h => hu h
  | @code ds n h hhigh _ =>
    rw [List.cons_append, List.cons_append, decode, h.hexQuad_eq]
    simp only [hhigh, Bool.false_eq_true, if_false]
    rw [List.drop_left' h.length_eq]
  | @pair ds high es low h hhigh h' _ =>
    rw [List.cons_append, List.cons_append, decode, h.drop_first, h.drop_both h', h'.hexQuad_eq,
      List.append_assoc, h.hexQuad_eq]
    simp only [hhigh, if_true]

/-- The text between quotes is decoded to the characters that it denotes. -/
theorem decode_inside {ws cs : List Char} (h : Inside quote ws cs) : decode ws = cs := by
  induction h with
  | nil => rw [decode]
  | cons head _ ih => rw [decode_denotes head, ih]

end Decoding

/-! ## Lexing

What is accepted is a row of signs and a quote (`exists_stringTail`), and a row of signs and a quote
is accepted (`stringTail_inside`). -/

section Lexing

variable {quote : Char}

/-- The second half of a surrogate pair is a quad behind `\u`. -/
theorem exists_lowSurrogate {gs : List Glyph} (h : (lowSurrogate gs).complete = true) :
    ∃ es low rest, gs = ('\\' :: 'u' :: es).map some ++ rest ∧ (lowSurrogate gs).length = 6 ∧
      IsQuad es low ∧ isLowSurrogate low = true := by
  unfold lowSurrogate at h ⊢
  split at h
  · next rest =>
    cases hquad : hexQuad? rest with
    | none => rw [hquad] at h; cases h
    | some low =>
      rw [hquad] at h
      obtain ⟨es, rest', rfl, hes⟩ := exists_quad hquad
      exact ⟨es, low, rest', rfl, congrArg (2 + ·) (hes.hexLength_eq rest'), hes, h⟩
  · cases h
  · cases h

/-- What is accepted behind a backslash is the rest of a sign. -/
theorem exists_escape {gs : List Glyph} (h : (escape quote gs).complete = true) :
    ∃ ws c rest, gs = ws.map some ++ rest ∧ (escape quote gs).length = ws.length ∧
      Denotes quote ('\\' :: ws) c := by
  unfold escape at h ⊢
  split at h
  · next gs =>
    simp only [Part.behind, escapedCode] at h ⊢
    cases hquad : hexQuad? gs with
    | none => rw [hquad] at h; cases h
    | some n =>
      obtain ⟨ds, rest, rfl, hds⟩ := exists_quad hquad
      have hdrop : (ds.map some ++ rest).drop 4 = rest :=
        List.drop_left' ((List.length_map _).trans hds.length_eq)
      simp only [hquad, hdrop] at h ⊢
      -- The first half of a pair needs the second one behind it; any other number must be no half.
      by_cases hhigh : isHighSurrogate n = true
      · simp only [hhigh, if_true] at h ⊢
        obtain ⟨es, low, rest', hrest, hlength, hes, hlow⟩ := exists_lowSurrogate h
        refine ⟨'u' :: (ds ++ '\\' :: 'u' :: es), _, rest', ?_, ?_, .pair hds hhigh hes hlow⟩
        · simp [hrest]
        · simp [hlength, hds.length_eq, hes.length_eq]
      · simp only [hhigh, Bool.false_eq_true, if_false] at h ⊢
        have hlow : isLowSurrogate n = false := by simpa using h
        refine ⟨'u' :: ds, _, rest, ?_, ?_, .code hds (Bool.eq_false_iff.mpr hhigh) hlow⟩
        · simp
        · simp [hds.length_eq]
  · next c rest hu =>
    split at h
    · next hc =>
      rw [if_pos hc]
      exact ⟨[c], _, rest, rfl, rfl, .letter hu hc⟩
    · cases h
  · cases h

/-- What is accepted behind a quote is a row of signs and another quote. -/
theorem exists_stringTail {gs : List Glyph} (h : (stringTail quote gs).complete = true) :
    ∃ ws cs rest, gs = (ws ++ [quote]).map some ++ rest ∧
      (stringTail quote gs).length = (ws ++ [quote]).length ∧ Inside quote ws cs := by
  induction gs using stringTail.induct quote with
  | case1 =>
    rw [stringTail] at h
    cases h
  | case2 =>
    rw [stringTail] at h
    cases h
  -- The text ends only here, at the closing quote.
  | case3 c rest hc =>
    obtain rfl := eq_of_beq hc
    rw [stringTail, if_pos hc]
    exact ⟨[], [], rest, rfl, rfl, .nil⟩
  -- An escape that is complete denotes one character, and the string goes on behind it.
  | case4 c rest hc hs e he ih =>
    obtain rfl := eq_of_beq hs
    rw [stringTail, if_neg hc, if_pos hs] at h ⊢
    simp only [show (escape quote rest).complete = true from he, if_true] at h ⊢
    obtain ⟨ws, c, gs, rfl, hlength, hsign⟩ := exists_escape he
    have hdrop : (ws.map some ++ gs).drop e.length = gs :=
      List.drop_left' ((List.length_map _).trans hlength.symm)
    rw [hdrop] at ih
    rw [show (escape quote (ws.map some ++ gs)).length = e.length from rfl, hdrop] at h ⊢
    obtain ⟨vs, cs, rest', rfl, hlength', hinside⟩ := ih h
    refine ⟨('\\' :: ws) ++ vs, c :: cs, rest', ?_, ?_, .cons hsign hinside⟩
    · simp
    · have hlength : e.length = ws.length := hlength
      simp only [Part.behind, hlength', List.length_append, List.length_cons]
      omega
  | case5 c rest hc hs e he =>
    rw [stringTail, if_neg hc, if_pos hs] at h
    simp only [if_neg (show ¬ (escape quote rest).complete = true from he), Part.behind] at h
    exact absurd h he
  | case6 c rest hc hs hp ih =>
    rw [stringTail, if_neg hc, if_neg hs, if_pos hp] at h ⊢
    obtain ⟨vs, cs, rest', rfl, hlength, hinside⟩ := ih h
    refine ⟨[c] ++ vs, c :: cs, rest', rfl, ?_, .cons (.plain ?_ ?_ hp) hinside⟩
    · simp only [Part.behind, hlength, List.length_append, List.length_singleton]
      omega
    · exact fun h => hc (beq_iff_eq.mpr h)
    · exact fun h => hs (beq_iff_eq.mpr h)
  | case7 c rest hc hs hp =>
    rw [stringTail, if_neg hc, if_neg hs, if_neg hp] at h
    cases h

/-- A surrogate pair is behind a backslash what it has to be. -/
theorem escape_pair {ds es : List Char} {high low : Nat} (h : IsQuad ds high)
    (hhigh : isHighSurrogate high = true) (h' : IsQuad es low) (hlow : isLowSurrogate low = true)
    (gs : List Glyph) :
    escape quote (('u' :: (ds ++ '\\' :: 'u' :: es)).map some ++ gs) = ⟨11, true⟩ := by
  have hdrop : ((ds ++ '\\' :: 'u' :: es).map some ++ gs).drop 4
      = some '\\' :: some 'u' :: (es.map some ++ gs) := by
    rw [List.map_append, List.append_assoc, List.drop_left' ((List.length_map _).trans h.length_eq)]
    rfl
  have hquad : hexQuad? ((ds ++ '\\' :: 'u' :: es).map some ++ gs) = some high := by
    rw [List.map_append, List.append_assoc, h.hexQuad?_append]
  rw [List.map_cons, List.cons_append, escape, escapedCode, hquad]
  simp only [hhigh, if_true, hdrop, lowSurrogate, h'.hexLength_eq, h'.hexQuad?_append,
    Option.any_some, hlow, Part.behind]

/-- A sign does not end a string. -/
theorem stringTail_denotes (hq : quote ≠ '\\') {ws : List Char} {c : Char}
    (h : Denotes quote ws c) (gs : List Glyph) :
    stringTail quote (ws.map some ++ gs) = (stringTail quote gs).behind ws.length := by
  have hback (ws : List Char) (he : escape quote (ws.map some ++ gs) = ⟨ws.length, true⟩) :
      stringTail quote (('\\' :: ws).map some ++ gs)
        = (stringTail quote gs).behind ('\\' :: ws).length := by
    have hdrop : (ws.map some ++ gs).drop ws.length = gs := List.drop_left' (List.length_map _)
    rw [List.map_cons, List.cons_append, stringTail, if_neg (by simpa using Ne.symm hq),
      if_pos (by decide)]
    simp only [he, if_true, hdrop, List.length_cons, Nat.add_comm 1]
  -- Three of the four ways to denote a character are escapes.
  cases h with
  | plain hc hs h =>
    rw [List.map_singleton, List.singleton_append, stringTail, if_neg (by simpa using hc),
      if_neg (by simpa using hs), if_pos h]
    rfl
  | @letter l hu h =>
    refine hback [l] ?_
    rw [List.map_singleton, List.singleton_append, escape]
    · rw [if_pos h]
      rfl
    · exact hu
  | @code ds n h hhigh hlow =>
    refine hback ('u' :: ds) ?_
    rw [List.map_cons, List.cons_append, escape, escapedCode, h.hexQuad?_append]
    simp only [hhigh, hlow, Bool.false_eq_true, if_false, Part.behind, List.length_cons,
      h.length_eq, Bool.not_false]
  | @pair ds high es low h hhigh h' hlow =>
    refine hback ('u' :: (ds ++ '\\' :: 'u' :: es)) ?_
    rw [escape_pair h hhigh h' hlow]
    simp [h.length_eq, h'.length_eq]

/-- A row of signs and a quote are what follows the first quote of a string. -/
theorem stringTail_inside (hq : quote ≠ '\\') {ws cs : List Char} (h : Inside quote ws cs)
    (gs : List Glyph) :
    stringTail quote ((ws ++ [quote]).map some ++ gs) = ⟨(ws ++ [quote]).length, true⟩ := by
  induction h with
  | nil =>
    rw [List.nil_append, List.map_singleton, List.singleton_append, stringTail,
      if_pos (beq_self_eq_true quote)]
    rfl
  | @cons ws c vs cs head tail ih =>
    rw [List.append_assoc, List.map_append, List.append_assoc, stringTail_denotes hq head, ih]
    exact congrArg (Part.mk · true) List.length_append.symm

/-- A row of signs between two quotes that denotes characters. -/
def IsQuoted (text cs : List Char) : Prop :=
  ∃ quote ws, text = quote :: (ws ++ [quote]) ∧ Inside quote ws cs

end Lexing

end JsonPath.Token.Literal
