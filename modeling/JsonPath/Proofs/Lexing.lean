import JsonPath.Token.Lexer

/-!
# The tokens of a text

What holds of every token that is cut out of a text: it is neither the byte order mark nor the end
of the input, and if it is a name, then it is made of the characters of one. Both are read off the
kind that `scanChar` gives, which depends on the first character of the token, and on more only for
some of them.
-/

namespace JsonPath.Token

open JsonPath.Text

/-- What holds of each token that can be cut off holds of all tokens of a text. -/
theorem forall_mem_lexemes {P : Token → Prop}
    (h : ∀ first rest,
      P ⟨(scan first rest).1, textOf (first :: rest.take (scan first rest).2)⟩)
    (gs : List Glyph) : ∀ t ∈ lexemes gs, P t := by
  induction gs using lexemes.induct with
  | case1 gs hn =>
    rw [lexemes_of_none hn]
    exact fun t ht => absurd ht List.not_mem_nil
  | case2 gs t rest hs ih =>
    rw [lexemes_of_some hs]
    intro u hu
    cases hu with
    | tail _ hu => exact ih u hu
    | head =>
      unfold next? at hs
      split at hs
      · cases hs
      · next first tail _ =>
        cases hs
        exact h first tail

/-! ## The first token -/

/-- The text of a token that is made of characters. -/
theorem textOf_map_some (cs : List Char) : textOf (cs.map some) = .ofList cs := by
  rw [textOf, List.map_map]
  exact congrArg String.ofList (List.map_id cs)

/-- A token is cut off where its scan ends. -/
theorem next?_of_scanChar {c : Char} {cs : List Char} {gs : List Glyph} {k : Kind}
    (hb : isBlank c = false) (hs : scanChar c (cs.map some ++ gs) = (k, cs.length)) :
    next? (some c :: (cs.map some ++ gs)) = some (⟨k, .ofList (c :: cs)⟩, gs) := by
  have hd : (some c :: (cs.map some ++ gs)).dropWhile (Glyph.isIn isBlank)
      = some c :: (cs.map some ++ gs) :=
    List.dropWhile_cons_of_neg (by simp [Glyph.isIn, hb])
  have htext : textOf (some c :: cs.map some) = .ofList (c :: cs) := textOf_map_some (c :: cs)
  rw [next?, hd]
  simp only [scan, hs, List.take_left' (List.length_map _), List.drop_left' (List.length_map _),
    htext]

theorem lexemes_blank {b : Char} (hb : isBlank b = true) (gs : List Glyph) :
    lexemes (some b :: gs) = lexemes gs := by
  have hn : next? (some b :: gs) = next? gs := by
    rw [next?, next?, List.dropWhile_cons_of_pos (show Glyph.isIn isBlank (some b) = true from hb)]
  cases h : next? gs with
  | none => rw [lexemes_of_none h, lexemes_of_none (hn.trans h)]
  | some s => rw [lexemes_of_some h, lexemes_of_some (hn.trans h)]

/-! ## Kinds

Names are the only tokens that are cut off for their first character alone, whatever follows, and
strings are the only ones that start with quotes. All other kinds are treated alike here: what holds
of the kinds that a part of a token may have holds of the kind that it has. -/

section Kinds

variable {P : Kind → Prop} {k k' : Kind}

theorem Part.kinded_fst (hu : P .unknown) (h : P k) (p : Part) : P (p.kinded k).1 := by
  unfold Part.kinded
  split
  · exact h
  · exact hu

/-- The kind of a number is one of few, so what holds of these holds of it. -/
theorem numberTail_fst (hu : P .unknown) (hd : P .decimal) (h : P k) (gs : List Glyph) :
    P (numberTail k gs).1 := by
  unfold numberTail
  dsimp only
  split
  · exact Part.kinded_fst hu h _
  · exact Part.kinded_fst hu hd _

theorem negativeTail_fst (hu : P .unknown) (hd : P .decimal) (hi : P .integer) (gs : List Glyph) :
    P (negativeTail gs).1 := by
  unfold negativeTail
  split
  · exact numberTail_fst hu hd hu _
  · dsimp only
    split
    · exact hu
    · exact numberTail_fst hu hd hi _

/-- A sign or a pair of signs is of one of two kinds. -/
theorem pairTail_fst (h : P k) (h' : P k') (c : Char) (gs : List Glyph) :
    P (pairTail c k k' gs).1 := by
  unfold pairTail
  split
  · split
    · exact h
    · exact h'
  · exact h'

end Kinds

/-- What holds of the kinds that the first character does not decide holds of the kind of a token.
Names start with a character of their own, strings start with a quote, and the two kinds of token
that no text contains are not found. -/
theorem scanChar_fst_of {P : Kind → Prop} {c : Char}
    (h : ∀ k, k ≠ .name → k ≠ .string → k ≠ .byteOrderMark → k ≠ .endOfInput → P k)
    (hname : isNameStart c = true → P .name) (hstring : c = '\'' ∨ c = '"' → P .string)
    (gs : List Glyph) : P (scanChar c gs).1 := by
  have hu : P .unknown := h _ (by decide) (by decide) (by decide) (by decide)
  have hd : P .decimal := h _ (by decide) (by decide) (by decide) (by decide)
  have hi : P .integer := h _ (by decide) (by decide) (by decide) (by decide)
  unfold scanChar
  split
  case h_1 => exact numberTail_fst hu hd hi _
  case h_2 => exact negativeTail_fst hu hd hi _
  case h_20 => exact Part.kinded_fst hu (hstring (.inl rfl)) _
  case h_21 => exact Part.kinded_fst hu (hstring (.inr rfl)) _
  case h_22 =>
    split
    · exact numberTail_fst hu hd hi _
    · split
      · next hc => exact hname hc
      · exact hu
  -- What is left are signs, alone or followed by a second one.
  all_goals first
    | exact pairTail_fst (h _ (by decide) (by decide) (by decide) (by decide))
        (h _ (by decide) (by decide) (by decide) (by decide)) _ _
    | exact h _ (by decide) (by decide) (by decide) (by decide)

/-- A token whose first character is none that names start with is no name. -/
theorem scanChar_fst_ne_name {c : Char} (hc : isNameStart c = false) (gs : List Glyph) :
    (scanChar c gs).1 ≠ .name :=
  scanChar_fst_of (P := (· ≠ .name)) (fun _ h _ _ _ => h)
    (fun h => absurd (hc.symm.trans h) Bool.false_ne_true) (fun _ => by decide) gs

/-- The tokens that can be cut out of a text are of all kinds but two: the byte order mark and the
end of the input. -/
structure Kind.IsInner (k : Kind) : Prop where
  ne_mark : k ≠ .byteOrderMark
  ne_end : k ≠ .endOfInput

/-- No token of a text is the end of it. -/
theorem scan_fst_isInner (first : Glyph) (rest : List Glyph) : (scan first rest).1.IsInner := by
  cases first with
  | none => exact ⟨nofun, nofun⟩
  | some c =>
    exact scanChar_fst_of (fun _ _ _ hm he => ⟨hm, he⟩) (fun _ => ⟨nofun, nofun⟩)
      (fun _ => ⟨nofun, nofun⟩) rest

/-! ## The first character -/

theorem isDigit_eq_false_of_isNameStart {c : Char} (h : isNameStart c = true) :
    isDigit c = false := by
  simp only [isNameStart, isDigit, Bool.or_eq_true, Bool.and_eq_true, decide_eq_true_eq,
    beq_iff_eq, Bool.and_eq_false_iff, decide_eq_false_iff_not, Char.le_def,
    UInt32.le_iff_toNat_le] at h ⊢
  rcases h with ((⟨h, -⟩ | ⟨h, -⟩) | rfl) | h
  · exact .inr fun h' => absurd (Nat.le_trans h h') (by decide)
  · exact .inr fun h' => absurd (Nat.le_trans h h') (by decide)
  · exact .inr (by decide)
  · exact .inr fun h' => absurd (Nat.le_trans h h') (by decide)

theorem isBlank_eq_false_of_isNameStart {c : Char} (h : isNameStart c = true) :
    isBlank c = false := by
  rw [Bool.eq_false_iff]
  intro hb
  simp only [isBlank, Bool.or_eq_true, beq_iff_eq] at hb
  rcases hb with ((rfl | rfl) | rfl) | rfl <;> exact absurd h (by decide)

theorem isBlank_eq_false_of_isDigit {c : Char} (h : isDigit c = true) : isBlank c = false := by
  rw [Bool.eq_false_iff]
  intro hb
  simp only [isBlank, Bool.or_eq_true, beq_iff_eq] at hb
  rcases hb with ((rfl | rfl) | rfl) | rfl <;> exact absurd h (by decide)

/-- No blank is part of a name. -/
theorem isBlank_eq_false_of_isNameChar {c : Char} (h : isNameChar c = true) :
    isBlank c = false := by
  rw [isNameChar, Bool.or_eq_true] at h
  rcases h with h | h
  · exact isBlank_eq_false_of_isNameStart h
  · exact isBlank_eq_false_of_isDigit h

/-- Where a name starts it is taken to its end. -/
theorem scanChar_name {c : Char} (h : isNameStart c = true) (gs : List Glyph) :
    scanChar c gs = (.name, run isNameChar gs) := by
  unfold scanChar
  split
  case h_22 => rw [if_neg (by simp [isDigit_eq_false_of_isNameStart h]), if_pos h]
  all_goals exact absurd h (by decide)

/-- Where a positive number starts its digits are taken, and then its tail. -/
theorem scanChar_digit {c : Char} (h : isDigit c = true) (h0 : c ≠ '0') (gs : List Glyph) :
    scanChar c gs = ((numberTail .integer (gs.drop (run isDigit gs))).1,
      run isDigit gs + (numberTail .integer (gs.drop (run isDigit gs))).2) := by
  unfold scanChar
  split
  case h_1 => exact absurd rfl h0
  case h_22 => rw [if_pos h]
  all_goals exact absurd h (by decide)

/-! ## The end of the input -/

/-- Neither the end of the input nor the byte order mark is found inside of a text. -/
theorem isInner_of_mem_lexemes {gs : List Glyph} {t : Token} (h : t ∈ lexemes gs) :
    t.kind.IsInner :=
  forall_mem_lexemes (P := fun t => t.kind.IsInner) scan_fst_isInner gs t h

/-- The tokens of a text end with the end of the input, and it is not among the others. -/
theorem tokenize_eq_append (octets : List UInt8) :
    ∃ ts, tokenize octets = ts ++ [endOfInput] ∧ ∀ t ∈ ts, t.kind ≠ .endOfInput := by
  refine ⟨_, rfl, ?_⟩
  intro t ht
  rcases List.mem_append.mp ht with ht | ht
  · split at ht
    · rw [List.mem_singleton.mp ht]
      decide
    · cases ht
  · exact (isInner_of_mem_lexemes ht).ne_end

/-- What holds of each token that is cut out of glyphs, of the byte order mark and of the end of the
input holds of all tokens of a text. -/
theorem forall_mem_tokenize {P : Token → Prop} (hmark : P mark) (hend : P endOfInput)
    (h : ∀ gs, ∀ t ∈ lexemes gs, P t) {octets : List UInt8} {t : Token}
    (ht : t ∈ tokenize octets) : P t := by
  rcases List.mem_append.mp ht with ht | ht
  · rcases List.mem_append.mp ht with ht | ht
    · split at ht
      · rwa [List.mem_singleton.mp ht]
      · cases ht
    · exact h _ t ht
  · rwa [List.mem_singleton.mp ht]

/-! ## Names -/

/-- Whether the characters are those of a name: one that names start with, and then any that names
continue with. -/
def isName : List Char → Bool
  | [] => false
  | c :: cs => isNameStart c && cs.all isNameChar

/-- A name is a first character and others. -/
theorem exists_cons_of_isName {cs : List Char} (h : isName cs = true) :
    ∃ c ds, cs = c :: ds ∧ isNameStart c = true ∧ ∀ d ∈ ds, isNameChar d = true := by
  cases cs with
  | nil => cases h
  | cons c ds =>
    rw [isName, Bool.and_eq_true, List.all_eq_true] at h
    exact ⟨c, ds, rfl, h.1, h.2⟩

/-- The text of a token that is of the kind of names is a name. -/
theorem isName_of_mem_lexemes {gs : List Glyph} {t : Token} (h : t ∈ lexemes gs) :
    t.kind = .name → isName t.text.toList = true := by
  refine forall_mem_lexemes (P := fun t => t.kind = .name → isName t.text.toList = true) ?_ gs t h
  intro first rest hk
  cases first with
  | none => cases hk
  | some c =>
    have hc : isNameStart c = true := by
      by_cases hc : isNameStart c = true
      · exact hc
      · exact absurd hk (scanChar_fst_ne_name (Bool.eq_false_iff.mpr hc) rest)
    have htake : rest.take (scan (some c) rest).2 = rest.takeWhile (Glyph.isIn isNameChar) := by
      rw [scan, scanChar_name hc]
      exact (List.prefix_iff_eq_take.mp (List.takeWhile_prefix _)).symm
    rw [htake, textOf, String.toList_ofList, List.map_cons, isName, Bool.and_eq_true,
      List.all_eq_true]
    refine ⟨hc, ?_⟩
    intro d hd
    obtain ⟨g, hg, rfl⟩ := List.mem_map.mp hd
    have hg := List.all_eq_true.mp (List.all_takeWhile) g hg
    cases g with
    | none => cases hg
    | some c => exact hg

/-- And so it is among all tokens of a text. -/
theorem isName_of_mem_tokenize {octets : List UInt8} {t : Token} (h : t ∈ tokenize octets) :
    t.kind = .name → isName t.text.toList = true :=
  forall_mem_tokenize (P := fun t => t.kind = .name → isName t.text.toList = true) nofun nofun
    (fun _ _ ht => isName_of_mem_lexemes ht) h

end JsonPath.Token
