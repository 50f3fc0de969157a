import JsonPath.Proofs.Lexing.Cut
import JsonPath.Proofs.Lexing.Division
import JsonPath.Proofs.Octets

/-!
# The lexer recognises the lexical grammar

A text of the lexical grammar is cut into one token, its own (`Lexeme.cutsOff`), and every token of
an open kind that is cut out of any text belongs to the grammar (`lexeme_of_mem_tokenize`). Together
they say which texts are a single name, number or string (`tokenize_eq_single_iff`).

For the second part, `Takes P n gs` says of a scanning function what stands in the glyphs that it
took. What a number is made of is then put together as the functions that scan it are.
-/

namespace JsonPath.Token

open JsonPath.Text JsonPath.Number

/-- The kinds whose texts are made up: names, numbers and strings. -/
def Kind.isOpen : Kind → Bool
  | .name | .integer | .decimal | .string => true
  | _ => false

theorem Kind.ne_unknown {k : Kind} (h : k.isOpen = true) : k ≠ .unknown := by
  rintro rfl
  cases h

/-! ## Texts of the grammar are tokens -/

/-- A lexeme is cut off where the text ends. -/
theorem Lexeme.cutsOff {k : Kind} {cs : List Char} (h : Lexeme k cs) : CutsOff k cs [] := by
  cases h with
  | name h => exact cutsOff_name h nofun
  | integer h => exact h.cutsOff nofun
  | decimal h => exact h.cutsOff nofun
  | string h => exact h.cutsOff []

/-! ## What is taken -/

/-- The first glyphs, so many of them, are characters, and they make up what `P` says. -/
def Takes (P : List Char → Prop) (n : Nat) (gs : List Glyph) : Prop :=
  ∃ (cs : List Char) (rest : List Glyph), gs = cs.map some ++ rest ∧ cs.length = n ∧ P cs

section Parts

variable {P Q R : List Char → Prop} {m n : Nat} {gs : List Glyph}

theorem takes_zero (h : P []) (gs : List Glyph) : Takes P 0 gs := ⟨[], gs, rfl, rfl, h⟩

theorem Takes.mono (h : Takes P n gs) (hPQ : ∀ cs, P cs → Q cs) : Takes Q n gs := by
  obtain ⟨cs, rest, hgs, hlength, hcs⟩ := h
  exact ⟨cs, rest, hgs, hlength, hPQ cs hcs⟩

/-- What is taken in two steps is taken as a whole. -/
theorem Takes.append (h : Takes P m gs) (h' : Takes Q n (gs.drop m))
    (hR : ∀ cs ds, P cs → Q ds → R (cs ++ ds)) : Takes R (m + n) gs := by
  obtain ⟨cs, rest, rfl, rfl, hcs⟩ := h
  rw [List.drop_left' (List.length_map _)] at h'
  obtain ⟨ds, rest', rfl, rfl, hds⟩ := h'
  exact ⟨cs ++ ds, rest', by simp, List.length_append, hR cs ds hcs hds⟩

theorem Takes.cons (h : Takes P n gs) (c : Char) (hQ : ∀ cs, P cs → Q (c :: cs)) :
    Takes Q (1 + n) (some c :: gs) := by
  obtain ⟨cs, rest, rfl, rfl, hcs⟩ := h
  exact ⟨c :: cs, rest, rfl, Nat.add_comm _ _, hQ cs hcs⟩

/-- The characters of a class at the front are taken. -/
theorem takes_run (p : Char → Bool) (gs : List Glyph) :
    Takes (fun cs => ∀ c ∈ cs, p c = true) (run p gs) gs := by
  obtain ⟨cs, rest, hgs, hlength⟩ := covers_run p gs
  refine ⟨cs, rest, hgs, hlength, ?_⟩
  have hwhile : gs.takeWhile (Glyph.isIn p) = cs.map some := by
    rw [List.prefix_iff_eq_take.mp (List.takeWhile_prefix (Glyph.isIn p) (l := gs))]
    rw [show (gs.takeWhile (Glyph.isIn p)).length = run p gs from rfl, ← hlength, hgs,
      List.take_left' (List.length_map _)]
  intro c hc
  have hmem : some c ∈ gs.takeWhile (Glyph.isIn p) := hwhile ▸ List.mem_map_of_mem hc
  exact List.all_eq_true.mp List.all_takeWhile (some c) hmem

/-! ## Numbers -/

/-- Digits are taken, and at least one. -/
theorem takes_someDigits (h : (someDigits gs).complete = true) :
    Takes (fun ds => ds ≠ [] ∧ ∀ c ∈ ds, isDigit c = true) (someDigits gs).length gs := by
  obtain ⟨ds, rest, hgs, hlength, hds⟩ := takes_run isDigit gs
  refine ⟨ds, rest, hgs, hlength, ?_, hds⟩
  rintro rfl
  rw [someDigits, ← hlength] at h
  exact absurd h (by decide)

/-- What is taken for a fraction is one, or nothing. -/
theorem takes_fraction (h : (fraction gs).complete = true) :
    Takes IsFraction (fraction gs).length gs := by
  unfold fraction at h ⊢
  split at h
  · exact (takes_someDigits h).cons '.' fun ds hds => .present hds.1 hds.2
  · exact takes_zero .absent _

/-- What is taken for an exponent behind its letter is one. -/
theorem takes_signedDigits (h : (signedDigits gs).complete = true) :
    Takes IsExponent (signedDigits gs).length gs := by
  unfold signedDigits at h ⊢
  split at h
  · exact (takes_someDigits h).cons '-' fun ds hds => .minus hds.1 hds.2
  · exact (takes_someDigits h).cons '+' fun ds hds => .plus hds.1 hds.2
  · exact (takes_someDigits h).mono fun ds hds => .plain hds.1 hds.2

/-- What is taken for an exponent is one, or nothing. -/
theorem takes_exponent (h : (exponent gs).complete = true) :
    Takes IsScale (exponent gs).length gs := by
  unfold exponent at h ⊢
  split at h
  · exact (takes_signedDigits h).cons 'e' fun es hes => .present (.inl rfl) hes
  · exact (takes_signedDigits h).cons 'E' fun es hes => .present (.inr rfl) hes
  · exact takes_zero .absent _

theorem takes_decimals (h : (decimals gs).complete = true) :
    Takes (fun ts => ∃ fs es, ts = fs ++ es ∧ IsFraction fs ∧ IsScale es)
      (decimals gs).length gs := by
  simp only [decimals] at h ⊢
  split at h
  · next hf =>
    rw [if_pos hf]
    exact (takes_fraction hf).append (takes_exponent h) fun fs es hfs hes => ⟨fs, es, rfl, hfs, hes⟩
  · next hf => exact absurd h hf

/-- What stands behind the digits of a number that has the kind `whole` with nothing there, and the
kind of the number. -/
inductive Follows (whole : Kind) : Kind → List Char → Prop
  | nothing : Follows whole whole []
  | tail {ts} (h : IsTail ts) : Follows whole .decimal ts

/-- What is taken behind the whole part of a number agrees with the kind of the number. -/
theorem takes_numberTail {whole : Kind} (h : (numberTail whole gs).1 ≠ .unknown) :
    Takes (Follows whole (numberTail whole gs).1) (numberTail whole gs).2 gs := by
  simp only [numberTail, Part.kinded] at h ⊢
  split at h
  · next hcomplete =>
    rw [if_pos hcomplete]
    obtain ⟨ts, rest, hgs, hlength, fs, es, rfl, hf, he⟩ := takes_decimals hcomplete
    refine ⟨fs ++ es, rest, hgs, hlength, ?_⟩
    -- The kind is decided by the length alone, whether fraction and exponent are both absent.
    split
    · next h0 =>
      rw [List.length_eq_zero_iff.mp (hlength.trans h0)]
      exact .nothing
    · next h0 =>
      refine .tail (.mk hf he fun hnil => h0 ?_)
      rw [← hlength, hnil, List.length_nil]
  · exact absurd rfl h

/-- The digits of a positive number with what follows them. -/
theorem Follows.positive {k : Kind} {ts ds : List Char} (h : Follows .integer k ts)
    (hd : IsPositive ds) : Lexeme k (ds ++ ts) := by
  cases h with
  | nothing =>
    rw [List.append_nil]
    exact .integer (.positive hd)
  | tail h => exact .decimal (.unsigned (.positive hd) h)

theorem Follows.negative {k : Kind} {ts ds : List Char} (h : Follows .integer k ts)
    (hd : IsPositive ds) : Lexeme k ('-' :: (ds ++ ts)) := by
  cases h with
  | nothing =>
    rw [List.append_nil]
    exact .integer (.negative hd)
  | tail h => exact .decimal (.negative (.positive hd) h)

theorem Follows.zero {k : Kind} {ts : List Char} (h : Follows .integer k ts) :
    Lexeme k ('0' :: ts) := by
  cases h with
  | nothing => exact .integer .zero
  | tail h => exact .decimal (.unsigned .zero h)

theorem Follows.negativeZero {k : Kind} {ts : List Char} (h : Follows .unknown k ts)
    (hk : k ≠ .unknown) : Lexeme k ('-' :: '0' :: ts) := by
  cases h with
  | nothing => exact absurd rfl hk
  | tail h => exact .decimal (.negative .zero h)

/-- Digits that do not start with a zero are a positive number. -/
theorem takes_positive (hn : run isDigit gs ≠ 0) (h0 : ∀ rest, gs ≠ some '0' :: rest) :
    Takes IsPositive (run isDigit gs) gs := by
  obtain ⟨ds, rest, hgs, hlength, hds⟩ := takes_run isDigit gs
  refine ⟨ds, rest, hgs, hlength, ?_⟩
  cases ds with
  | nil => exact absurd hlength.symm hn
  | cons d ds =>
    obtain ⟨hd, hds⟩ := List.forall_mem_cons.mp hds
    refine .mk hd ?_ hds
    rintro rfl
    exact h0 _ hgs

/-- What follows a minus sign makes up a number with it. -/
theorem takes_negativeTail (h : (negativeTail gs).1 ≠ .unknown) :
    Takes (fun cs => Lexeme (negativeTail gs).1 ('-' :: cs)) (negativeTail gs).2 gs := by
  unfold negativeTail at h ⊢
  split at h
  · exact (takes_numberTail h).cons '0' fun ts hts => hts.negativeZero h
  · next gs h0 =>
    dsimp only at h ⊢
    split at h
    · exact absurd rfl h
    · next hn =>
      rw [if_neg hn]
      exact (takes_positive hn h0).append (takes_numberTail h) fun ds ts hds hts => hts.negative hds

/-! ## Strings -/

/-- What follows a quote makes up a string with it. -/
theorem takes_string {quote : Char} (hq : quote = '\'' ∨ quote = '"')
    (h : ((stringTail quote gs).kinded .string).1 ≠ .unknown) :
    Takes (fun cs => Lexeme ((stringTail quote gs).kinded .string).1 (quote :: cs))
      ((stringTail quote gs).kinded .string).2 gs := by
  unfold Part.kinded at h ⊢
  split at h
  · next hcomplete =>
    obtain ⟨ws, cs, rest, hgs, hlength, hinside⟩ := Literal.exists_stringTail hcomplete
    rw [if_pos hcomplete]
    exact ⟨ws ++ [quote], rest, hgs, hlength.symm, .string (.mk hq hinside)⟩
  · exact absurd rfl h

end Parts

/-! ## Tokens are texts of the grammar -/

/-- A token of an open kind is, with its first character, a text of that kind. -/
theorem takes_scanChar {c : Char} {gs : List Glyph} (h : (scanChar c gs).1.isOpen = true) :
    Takes (fun cs => Lexeme (scanChar c gs).1 (c :: cs)) (scanChar c gs).2 gs := by
  unfold scanChar at h ⊢
  split at h
  case h_1 => exact (takes_numberTail (Kind.ne_unknown h)).mono fun ts hts => hts.zero
  case h_2 => exact takes_negativeTail (Kind.ne_unknown h)
  case h_20 => exact takes_string (.inl rfl) (Kind.ne_unknown h)
  case h_21 => exact takes_string (.inr rfl) (Kind.ne_unknown h)
  case h_22 =>
    -- All other branches have a character of their own, the zero among them.
    have h0 : c ≠ '0' := ‹c = '0' → False›
    split at h
    · next hc =>
      rw [if_pos hc]
      exact (takes_run isDigit gs).append (takes_numberTail (Kind.ne_unknown h))
        fun ds ts hds hts => hts.positive (.mk hc h0 hds)
    · next hd =>
      rw [if_neg hd]
      split at h
      · next hc =>
        rw [if_pos hc]
        refine (takes_run isNameChar gs).mono fun cs hcs => .name ?_
        rw [isName, hc, Bool.true_and, List.all_eq_true]
        exact hcs
      · cases h
  -- What is left are signs, alone or followed by a second one.
  all_goals first
    | exact absurd h (by decide)
    | exact absurd h (pairTail_fst (P := (¬ ·.isOpen = true)) (by decide) (by decide) _ _)

/-- Every token that has a text of its own is a lexeme of its kind. -/
theorem lexeme_of_mem_lexemes {gs : List Glyph} {t : Token} (h : t ∈ lexemes gs) :
    t.kind.isOpen = true → Lexeme t.kind t.text.toList := by
  refine forall_mem_lexemes (P := fun t => t.kind.isOpen = true → Lexeme t.kind t.text.toList) ?_
    gs t h
  intro first rest hk
  cases first with
  | none => cases hk
  | some c =>
    obtain ⟨cs, rest', hrest, hlength, hlexeme⟩ := takes_scanChar hk
    have htake : rest.take (scanChar c rest).2 = cs.map some := by
      rw [← hlength, hrest, List.take_left' (List.length_map _)]
    rw [scan, htake, textOf, String.toList_ofList, List.map_cons, List.map_map]
    exact (List.map_id cs).symm ▸ hlexeme

/-- Whatever the text, its names, numbers and strings are texts of the grammar. -/
theorem lexeme_of_mem_tokenize {octets : List UInt8} {t : Token} (h : t ∈ tokenize octets) :
    t.kind.isOpen = true → Lexeme t.kind t.text.toList :=
  forall_mem_tokenize (P := fun t => t.kind.isOpen = true → Lexeme t.kind t.text.toList) nofun nofun
    (fun _ _ ht => lexeme_of_mem_lexemes ht) h

/-- Every string among the tokens of a text is a row of signs between two quotes. -/
theorem Literal.isQuoted_of_mem_tokenize {octets : List UInt8} {t : Token}
    (h : t ∈ tokenize octets) (hk : t.kind = .string) : ∃ cs, IsQuoted t.text.toList cs := by
  have hlexeme := lexeme_of_mem_tokenize h (hk ▸ rfl)
  rw [hk] at hlexeme
  generalize t.text.toList = text at hlexeme
  cases hlexeme with
  | string h => cases h with | mk _ hinside => exact ⟨_, _, _, rfl, hinside⟩

/-! ## Single tokens -/

/-- **Recognition.** A text is a single name, number or string, from its first character to its
last, if and only if it is a text of the grammar. -/
theorem tokenize_eq_single_iff {k : Kind} {s : String} (hk : k.isOpen = true)
    (hs : s.toList.head? ≠ some '\uFEFF') :
    tokenize s.toUTF8.toList = [⟨k, s⟩, endOfInput] ↔ Lexeme k s.toList := by
  constructor
  · intro h
    have hmem : ⟨k, s⟩ ∈ tokenize s.toUTF8.toList := h ▸ List.mem_cons_self
    exact lexeme_of_mem_tokenize hmem hk
  · intro h
    have hlexemes := h.cutsOff.lexemes_eq
    rw [List.append_nil, List.map_nil, lexemes_of_none (show next? [] = none from rfl),
      String.ofList_toList] at hlexemes
    rw [tokenize_toUTF8 hs, hlexemes]
    rfl

/-- An escaped surrogate pair is one sign of a string. -/
theorem tokenize_surrogatePair :
    Kind.string.isOpen = true ∧ "'\\uD83D\\uDE00'".toList.head? ≠ some '\uFEFF' ∧
      tokenize "'\\uD83D\\uDE00'".toUTF8.toList
        = [⟨.string, "'\\uD83D\\uDE00'"⟩, endOfInput] := by
  have hhigh : Literal.IsQuad ['D', '8', '3', 'D'] 0xD83D := ⟨rfl, rfl⟩
  have hlow : Literal.IsQuad ['D', 'E', '0', '0'] 0xDE00 := ⟨rfl, rfl⟩
  have hpair := @Literal.Denotes.pair '\'' _ _ _ _ hhigh (by decide) hlow (by decide)
  have hlexeme : Lexeme .string "'\\uD83D\\uDE00'".toList :=
    .string (.mk (.inl rfl) (.cons hpair .nil))
  exact ⟨rfl, by decide, (tokenize_eq_single_iff rfl (by decide)).mpr hlexeme⟩

end JsonPath.Token
