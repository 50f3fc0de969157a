import JsonPath.Proofs.Lexing.Literal

/-!
# One glyph ahead

Whoever scans a token looks at the glyphs of the token and at the one behind them, and a blank there
ends the token as any other glyph does that does not belong to it. So a token is scanned the same in
front of glyphs that go on alike (`Alike`): with the same glyph, with a blank, or not at all
(`Alike.scanChar_eq`). Strings that break off are an exception, for blanks may stand inside of them.
-/

namespace JsonPath.Token

open JsonPath.Text

/-- The first glyphs, so many of them, are the same on both sides. Behind them both sides go on with
the same glyph, or the second goes on with a blank, or it ends. -/
inductive Alike : Nat → List Glyph → List Glyph → Prop
  | same (g : Glyph) (gs gs' : List Glyph) : Alike 0 (g :: gs) (g :: gs')
  | blank {b : Char} (hb : isBlank b = true) (gs gs' : List Glyph) : Alike 0 gs (some b :: gs')
  | ends (gs : List Glyph) : Alike 0 gs []
  | cons (g : Glyph) {n gs gs'} (h : Alike n gs gs') : Alike (n + 1) (g :: gs) (g :: gs')

namespace Alike

variable {m n : Nat} {gs gs' : List Glyph} {c : Char}

theorem of_add (h : Alike (m + n) gs gs') : Alike m gs gs' := by
  induction m generalizing gs gs' with
  | zero =>
    rw [Nat.zero_add] at h
    cases h with
    | same g => exact .same g _ _
    | blank hb => exact .blank hb _ _
    | ends => exact .ends _
    | cons g => exact .same g _ _
  | succ m ih =>
    rw [Nat.succ_add_eq_add_succ] at h
    cases h with
    | cons g h => exact .cons g (ih h)

/-- Behind what has been read both look alike. -/
theorem drop (h : Alike (m + n) gs gs') : Alike n (gs.drop m) (gs'.drop m) := by
  induction m generalizing gs gs' with
  | zero => rwa [Nat.zero_add] at h
  | succ m ih =>
    rw [Nat.succ_add_eq_add_succ] at h
    cases h with
    | cons g h => exact ih h

/-- The same text in front does not matter. -/
theorem append (h : Alike 0 gs gs') (ds : List Glyph) :
    Alike ds.length (ds ++ gs) (ds ++ gs') := by
  induction ds with
  | nil => exact h
  | cons d ds ih => exact .cons d ih

/-- What stands in front of the place where they may differ is the same. -/
theorem exists_append {ds : List Glyph} (h : Alike ds.length (ds ++ gs) gs') :
    ∃ gs'', gs' = ds ++ gs'' := by
  induction ds generalizing gs' with
  | nil => exact ⟨gs', rfl⟩
  | cons d ds ih =>
    cases h with
    | cons _ h =>
      obtain ⟨gs'', rfl⟩ := ih h
      exact ⟨gs'', rfl⟩

/-- If the first side does not start with a character that is no blank, then neither does the
second. -/
theorem head_ne (h : Alike n gs gs') (hc : isBlank c = false) (hne : ∀ rest, gs ≠ some c :: rest) :
    ∀ rest, gs' ≠ some c :: rest := by
  rintro rest rfl
  cases h with
  | same => exact hne _ rfl
  | blank hb => exact absurd (hb.symm.trans hc) (by decide)
  | cons => exact hne _ rfl

/-- If the first side starts with a character that both sides share, then so does the second. -/
theorem shares (h : Alike (1 + n) (some c :: gs) gs') :
    ∃ rest, gs' = some c :: rest ∧ Alike n gs rest := by
  rw [Nat.add_comm] at h
  cases h with
  | cons _ h => exact ⟨_, rfl, h⟩

/-! ## Parts of numbers -/

/-- A run of characters that are no blanks has the same length. -/
theorem run_eq {p : Char → Bool} (hp : ∀ c, p c = true → isBlank c = false)
    (h : Alike (run p gs) gs gs') : run p gs' = run p gs := by
  -- A blank is in no such class, so a run ends in front of it as it ends anywhere else.
  have hblank {b : Char} (hb : isBlank b = true) (gs : List Glyph) : run p (some b :: gs) = 0 := by
    have hpb : p b = false := Bool.eq_false_iff.mpr fun hpb => by
      rw [hp b hpb] at hb
      cases hb
    simp [run, Glyph.isIn, hpb]
  -- The run goes on as long as both have the same character, and stops where a blank may stand.
  induction gs generalizing gs' with
  | nil =>
    cases h with
    | blank hb => exact hblank hb _
    | ends => rfl
  | cons g gs ih =>
    by_cases hg : g.isIn p = true
    · have hrun (gs : List Glyph) : run p (g :: gs) = run p gs + 1 := by simp [run, hg]
      rw [hrun] at h
      cases h with
      | cons _ h => rw [hrun, hrun, ih h]
    · have hrun (gs : List Glyph) : run p (g :: gs) = 0 := by simp [run, hg]
      rw [hrun] at h ⊢
      cases h with
      | same => exact hrun _
      | blank hb => exact hblank hb _
      | ends => rfl

/-- Digits are the same number of digits, and so is everything else that a scanner takes, as the
theorems that follow say. -/
theorem someDigits_eq (h : Alike (someDigits gs).length gs gs') :
    someDigits gs' = someDigits gs := by
  rw [someDigits, someDigits, run_eq (fun _ => isBlank_eq_false_of_isDigit) h]

theorem fraction_eq (h : Alike (fraction gs).length gs gs') : fraction gs' = fraction gs := by
  fun_cases fraction gs with
  | case1 rest =>
    obtain ⟨rest', rfl, htail⟩ := h.shares
    exact congrArg (Part.behind 1) htail.someDigits_eq
  | case2 gs hpoint => rw [fraction.eq_2 _ (h.head_ne rfl hpoint)]

theorem signedDigits_eq (h : Alike (signedDigits gs).length gs gs') :
    signedDigits gs' = signedDigits gs := by
  fun_cases signedDigits gs with
  | case1 rest =>
    obtain ⟨rest', rfl, htail⟩ := h.shares
    exact congrArg (Part.behind 1) htail.someDigits_eq
  | case2 rest =>
    obtain ⟨rest', rfl, htail⟩ := h.shares
    exact congrArg (Part.behind 1) htail.someDigits_eq
  | case3 gs hminus hplus =>
    rw [signedDigits.eq_3 _ hminus hplus] at h
    rw [signedDigits.eq_3 _ (h.head_ne rfl hminus) (h.head_ne rfl hplus), h.someDigits_eq]

/-- An exponent is scanned alike, since neither its letter nor its sign is a blank. -/
theorem exponent_eq (h : Alike (exponent gs).length gs gs') : exponent gs' = exponent gs := by
  fun_cases exponent gs with
  | case1 rest =>
    obtain ⟨rest', rfl, htail⟩ := h.shares
    exact congrArg (Part.behind 1) htail.signedDigits_eq
  | case2 rest =>
    obtain ⟨rest', rfl, htail⟩ := h.shares
    exact congrArg (Part.behind 1) htail.signedDigits_eq
  | case3 gs hsmall hlarge =>
    rw [exponent.eq_3 _ (h.head_ne rfl hsmall) (h.head_ne rfl hlarge)]

theorem decimals_eq (h : Alike (decimals gs).length gs gs') : decimals gs' = decimals gs := by
  simp only [decimals] at h ⊢
  split at h
  · next hcomplete =>
    rw [h.of_add.fraction_eq, if_pos hcomplete, if_pos hcomplete, h.drop.exponent_eq]
  · next hbroken => rw [h.fraction_eq, if_neg hbroken, if_neg hbroken]

/-! ## Tokens -/

/-- What follows the whole part of a number. -/
theorem numberTail_eq {whole : Kind} (h : Alike (numberTail whole gs).2 gs gs') :
    numberTail whole gs' = numberTail whole gs := by
  rw [numberTail, numberTail, decimals_eq h]

/-- What follows a minus sign is scanned alike, be it a zero, other digits or nothing. -/
theorem negativeTail_eq (h : Alike (negativeTail gs).2 gs gs') :
    negativeTail gs' = negativeTail gs := by
  fun_cases negativeTail gs with
  | case1 rest =>
    obtain ⟨rest', rfl, htail⟩ := h.shares
    rw [negativeTail, htail.numberTail_eq]
  | case2 gs h0 n hn =>
    have h0' := h.head_ne rfl h0
    rw [negativeTail.eq_2 _ h0, if_pos hn] at h
    rw [negativeTail.eq_2 _ h0', run_eq (fun _ => isBlank_eq_false_of_isDigit) (hn ▸ h), if_pos hn]
  | case3 gs h0 n hn t =>
    have h0' := h.head_ne rfl h0
    rw [negativeTail.eq_2 _ h0, if_neg hn] at h
    rw [negativeTail.eq_2 _ h0', run_eq (fun _ => isBlank_eq_false_of_isDigit) h.of_add,
      if_neg hn, h.drop.numberTail_eq]

section Pairs

variable {second : Char} {paired alone : Kind}

theorem pairTail_of_ne (h : ∀ rest, gs ≠ some second :: rest) :
    pairTail second paired alone gs = (alone, 0) := by
  unfold pairTail
  split
  · next c rest =>
    rw [if_neg]
    intro hc
    exact h rest (by rw [eq_of_beq hc])
  · rfl

theorem pairTail_self (rest : List Glyph) :
    pairTail second paired alone (some second :: rest) = (paired, 1) := by
  rw [pairTail, if_pos (beq_self_eq_true second)]

/-- Two characters are paired if they stand side by side, so a blank between them parts them. -/
theorem pairTail_eq (hs : isBlank second = false)
    (h : Alike (pairTail second paired alone gs).2 gs gs') :
    pairTail second paired alone gs' = pairTail second paired alone gs := by
  by_cases hsecond : ∃ rest, gs = some second :: rest
  · obtain ⟨rest, rfl⟩ := hsecond
    rw [pairTail_self] at h
    obtain ⟨rest', rfl, -⟩ := shares (n := 0) h
    rw [pairTail_self, pairTail_self]
  · have hne : ∀ rest, gs ≠ some second :: rest := fun rest heq => hsecond ⟨rest, heq⟩
    rw [pairTail_of_ne (h.head_ne hs hne), pairTail_of_ne hne]

end Pairs

/-- A string that does not break off is scanned to its second quote and no further. -/
theorem stringTail_eq {quote : Char} (hq : quote ≠ '\\')
    (hcomplete : (stringTail quote gs).complete = true)
    (h : Alike (stringTail quote gs).length gs gs') :
    stringTail quote gs' = stringTail quote gs := by
  obtain ⟨ws, cs, rest, rfl, hlength, hinside⟩ := Literal.exists_stringTail hcomplete
  rw [hlength, ← List.length_map (f := some)] at h
  obtain ⟨rest', rfl⟩ := h.exists_append
  rw [Literal.stringTail_inside hq hinside, Literal.stringTail_inside hq hinside]

theorem kinded_stringTail_eq {quote : Char} (hq : quote ≠ '\\')
    (hk : ((stringTail quote gs).kinded .string).1 ≠ .unknown)
    (h : Alike ((stringTail quote gs).kinded .string).2 gs gs') :
    (stringTail quote gs').kinded .string = (stringTail quote gs).kinded .string := by
  -- A string that breaks off is an unknown token.
  have hcomplete : (stringTail quote gs).complete = true := by
    by_cases hcomplete : (stringTail quote gs).complete = true
    · exact hcomplete
    · exact absurd (by rw [Part.kinded, if_neg hcomplete]) hk
  rw [h.stringTail_eq hq hcomplete]

/-- In front of glyphs that go on alike, the same token is scanned, unless it is unknown. -/
theorem scanChar_eq (hk : (scanChar c gs).1 ≠ .unknown) (h : Alike (scanChar c gs).2 gs gs') :
    scanChar c gs' = scanChar c gs := by
  unfold scanChar at hk h ⊢
  split at h
  case h_1 => exact h.numberTail_eq
  case h_2 => exact h.negativeTail_eq
  case h_20 => exact h.kinded_stringTail_eq (by decide) hk
  case h_21 => exact h.kinded_stringTail_eq (by decide) hk
  case h_22 =>
    split at h
    · next hdigit =>
      rw [if_pos hdigit, if_pos hdigit]
      dsimp only at h ⊢
      rw [run_eq (fun _ => isBlank_eq_false_of_isDigit) h.of_add, h.drop.numberTail_eq]
    · next hdigit =>
      rw [if_neg hdigit, if_neg hdigit]
      split at h
      · next hname =>
        rw [if_pos hname, if_pos hname, run_eq (fun _ => isBlank_eq_false_of_isNameChar) h]
      · next hname => rw [if_neg hname, if_neg hname]
  -- What is left are signs, alone or followed by a second one.
  all_goals first
    | rfl
    | exact h.pairTail_eq (by decide)

end Alike

end JsonPath.Token
