import JsonPath.Proofs.Lexing
import JsonPath.Proofs.Lexing.Lexeme
import JsonPath.Proofs.Quoting

/-!
# Single tokens

`CutsOff k cs rest` says that the token with the text `cs` is cut off in front of `rest`. The lemmas
say of the texts of the lexical grammar what must not follow them: no character of a name behind a
name, and no point either behind a number. What the printer writes for a name, a string or a number
is one of these texts.
-/

namespace JsonPath.Token

open JsonPath.Text JsonPath.Number

/-- In front of `rest`, the token with the text `cs` is cut off. -/
def CutsOff (k : Kind) (cs rest : List Char) : Prop :=
  next? ((cs ++ rest).map some) = some (⟨k, .ofList cs⟩, rest.map some)

/-- A token that is cut off is the first one, and the rest is cut after it. -/
theorem CutsOff.lexemes_eq {k : Kind} {cs rest : List Char} (h : CutsOff k cs rest) :
    lexemes ((cs ++ rest).map some) = ⟨k, .ofList cs⟩ :: lexemes (rest.map some) :=
  lexemes_of_some h

/-- A token is cut off where its first character, with all that follows, scans to its length. -/
theorem cutsOff_of_scanChar {c : Char} {cs rest : List Char} {k : Kind} (hb : isBlank c = false)
    (hs : scanChar c ((cs ++ rest).map some) = (k, cs.length)) : CutsOff k (c :: cs) rest := by
  rw [List.map_append] at hs
  rw [CutsOff, List.cons_append, List.map_cons, List.map_append]
  exact next?_of_scanChar hb hs

/-! ## What may follow -/

/-- A name ends in front of the text. -/
def EndsName (cs : List Char) : Prop := ∀ c ∈ cs.head?, isNameChar c = false

/-- A number ends in front of the text. -/
def EndsNumber (cs : List Char) : Prop := ∀ c ∈ cs.head?, isNameChar c = false ∧ c ≠ '.'

theorem EndsNumber.endsName {cs : List Char} (h : EndsNumber cs) : EndsName cs :=
  fun c hc => (h c hc).1

/-! ## Signs -/

/-- A dot is cut off unless another one follows. -/
theorem cutsOff_dot {rest : List Char} (h : rest.head? ≠ some '.') : CutsOff .dot ['.'] rest := by
  refine cutsOff_of_scanChar rfl ?_
  cases rest with
  | nil => rfl
  | cons c rest =>
    have hc : (c == '.') = false := by
      simpa using fun hc => h (congrArg some hc)
    simp [scanChar, pairTail, hc]

/-- A negation sign is cut off unless an equals sign follows. -/
theorem cutsOff_negation {rest : List Char} (h : rest.head? ≠ some '=') :
    CutsOff .negation ['!'] rest := by
  refine cutsOff_of_scanChar rfl ?_
  cases rest with
  | nil => rfl
  | cons c rest =>
    have hc : (c == '=') = false := by
      simpa using fun hc => h (congrArg some hc)
    simp [scanChar, pairTail, hc]

/-! ## Names and strings -/

/-- The number of characters of a class in front of others. -/
theorem run_append {p : Char → Bool} {cs rest : List Char} (hcs : ∀ c ∈ cs, p c = true)
    (hrest : ∀ c ∈ rest.head?, p c = false) : run p ((cs ++ rest).map some) = cs.length := by
  have hp : ∀ g ∈ cs.map some, Glyph.isIn p g = true := by
    intro g hg
    obtain ⟨c, hc, rfl⟩ := List.mem_map.mp hg
    exact hcs c hc
  have hr : (rest.map some).takeWhile (Glyph.isIn p) = [] := by
    cases rest with
    | nil => rfl
    | cons c rest => exact List.takeWhile_cons_of_neg (by simp [Glyph.isIn, hrest c rfl])
  rw [run, List.map_append, List.takeWhile_append_of_pos hp, hr, List.append_nil, List.length_map]

/-- A name is cut off where it ends. -/
theorem cutsOff_name {cs rest : List Char} (hn : isName cs = true) (hrest : EndsName rest) :
    CutsOff .name cs rest := by
  obtain ⟨c, ds, rfl, hc, hds⟩ := exists_cons_of_isName hn
  refine cutsOff_of_scanChar (isBlank_eq_false_of_isNameStart hc) ?_
  rw [scanChar_name hc, run_append hds hrest]

/-- A string ends at its closing quote, whatever follows. -/
theorem IsString.cutsOff {cs : List Char} (h : IsString cs) (rest : List Char) :
    CutsOff .string cs rest := by
  obtain @⟨quote, ws, cs, hq, h⟩ := h
  have hback : quote ≠ '\\' := by
    rintro rfl
    exact absurd hq (by decide)
  have htail : stringTail quote ((ws ++ [quote] ++ rest).map some)
      = ⟨(ws ++ [quote]).length, true⟩ := by
    rw [List.map_append]
    exact Literal.stringTail_inside hback h (rest.map some)
  rcases hq with rfl | rfl
  · refine cutsOff_of_scanChar rfl ?_
    rw [scanChar, htail]
    rfl
  · refine cutsOff_of_scanChar rfl ?_
    rw [scanChar, htail]
    rfl

/-- The text that is written for a string is one token, whatever follows. -/
theorem cutsOff_literalText (s : String) (rest : List Char) :
    CutsOff .string (Query.literalText s) rest :=
  IsString.cutsOff (.mk (.inl rfl) (Query.inside_escapeText s.toList)) rest

/-! ## Numbers

A number is its digits and what follows them. If nothing follows that belongs to it, then it is an
integer; otherwise a fraction or an exponent follows, or both. -/

theorem fraction_of_ne {rest : List Char} (h : rest.head? ≠ some '.') :
    fraction (rest.map some) = ⟨0, true⟩ := by
  cases rest with
  | nil => rfl
  | cons c rest =>
    rw [List.map_cons, fraction]
    rintro gs heq
    exact h (congrArg some (Option.some.inj (List.cons.inj heq).1))

/-- Where a number ends there is no exponent. -/
theorem exponent_of_ends {rest : List Char} (h : EndsName rest) :
    exponent (rest.map some) = ⟨0, true⟩ := by
  cases rest with
  | nil => rfl
  | cons c rest =>
    have hname := h c rfl
    rw [List.map_cons, exponent]
    · rintro gs heq
      rw [Option.some.inj (List.cons.inj heq).1] at hname
      exact absurd hname (by decide)
    · rintro gs heq
      rw [Option.some.inj (List.cons.inj heq).1] at hname
      exact absurd hname (by decide)

theorem EndsNumber.head?_ne {rest : List Char} (h : EndsNumber rest) : rest.head? ≠ some '.' :=
  fun h0 => (h '.' h0).2 rfl

/-- Where a number ends it has no tail. -/
theorem numberTail_of_ends {rest : List Char} (h : EndsNumber rest) (k : Kind) :
    numberTail k (rest.map some) = (k, 0) := by
  have hd : decimals (rest.map some) = ⟨0, true⟩ := by
    rw [decimals, fraction_of_ne h.head?_ne]
    simp only [if_true, List.drop_zero, exponent_of_ends h.endsName]
    rfl
  rw [numberTail, hd]
  rfl

/-- Digits are taken up to what is none. -/
theorem someDigits_append {ds rest : List Char} (hne : ds ≠ [])
    (hds : ∀ c ∈ ds, isDigit c = true) (hrest : ∀ c ∈ rest.head?, isDigit c = false) :
    someDigits ((ds ++ rest).map some) = ⟨ds.length, true⟩ := by
  rw [someDigits, run_append hds hrest]
  simp [hne]

theorem isDigit_of_ends {rest : List Char} (h : EndsNumber rest) :
    ∀ c ∈ rest.head?, isDigit c = false := by
  intro c hc
  have hn := (h c hc).1
  rw [isNameChar, Bool.or_eq_false_iff] at hn
  exact hn.2

/-- The digits of an exponent are taken with their sign. -/
theorem signedDigits_append {es rest : List Char} (he : IsExponent es) (h : EndsNumber rest) :
    signedDigits ((es ++ rest).map some) = ⟨es.length, true⟩ := by
  have hrest := isDigit_of_ends h
  cases he with
  | plain hne hd =>
    have hs := someDigits_append hne hd hrest
    obtain ⟨c, ds, rfl⟩ := List.exists_cons_of_ne_nil hne
    have hc := hd c List.mem_cons_self
    rw [List.cons_append, List.map_cons] at hs ⊢
    rw [signedDigits, hs]
    · rintro gs heq
      rw [Option.some.inj (List.cons.inj heq).1] at hc
      exact absurd hc (by decide)
    · rintro gs heq
      rw [Option.some.inj (List.cons.inj heq).1] at hc
      exact absurd hc (by decide)
  | minus hne hd =>
    rw [List.cons_append, List.map_cons, signedDigits, someDigits_append hne hd hrest,
      Part.behind, List.length_cons, Nat.add_comm]
  | plus hne hd =>
    rw [List.cons_append, List.map_cons, signedDigits, someDigits_append hne hd hrest,
      Part.behind, List.length_cons, Nat.add_comm]

/-- A fraction is taken up to the exponent behind it. -/
theorem fraction_append {fs es rest : List Char} (hf : IsFraction fs) (he : IsScale es)
    (h : EndsNumber rest) : fraction ((fs ++ (es ++ rest)).map some) = ⟨fs.length, true⟩ := by
  cases hf with
  | absent =>
    refine fraction_of_ne ?_
    cases he with
    | absent => exact h.head?_ne
    | present he _ => rcases he with rfl | rfl <;> simp
  | present hne hds =>
    rw [List.cons_append, List.map_cons, fraction, someDigits_append hne hds, Part.behind,
      List.length_cons, Nat.add_comm]
    cases he with
    | absent => exact isDigit_of_ends h
    | present he _ =>
      rintro c ⟨⟩
      rcases he with rfl | rfl <;> decide

/-- An exponent is taken up to the end of the number. -/
theorem exponent_append {es rest : List Char} (he : IsScale es) (h : EndsNumber rest) :
    exponent ((es ++ rest).map some) = ⟨es.length, true⟩ := by
  cases he with
  | absent => exact exponent_of_ends h.endsName
  | present he hes =>
    rcases he with rfl | rfl
    all_goals
      rw [List.cons_append, List.map_cons, exponent, signedDigits_append hes h, Part.behind,
        List.length_cons, Nat.add_comm]

/-- A tail makes a number a decimal one, and is taken as a whole. -/
theorem numberTail_append {ts rest : List Char} (ht : IsTail ts) (h : EndsNumber rest) (k : Kind) :
    numberTail k ((ts ++ rest).map some) = (.decimal, ts.length) := by
  obtain @⟨fs, es, hf, he, hne⟩ := ht
  have hd : decimals ((fs ++ es ++ rest).map some) = ⟨(fs ++ es).length, true⟩ := by
    have hdrop : ((fs ++ (es ++ rest)).map some).drop fs.length = (es ++ rest).map some := by
      rw [List.map_append, List.drop_left' (List.length_map _)]
    rw [List.append_assoc, decimals, fraction_append hf he h]
    simp only [if_true, hdrop, exponent_append he h, Part.behind, List.length_append]
  rw [numberTail, hd]
  simp only [if_neg (mt List.length_eq_zero_iff.mp hne)]
  rfl

theorem IsTail.isDigit_head? {ts : List Char} (ht : IsTail ts) (rest : List Char) :
    ∀ c ∈ (ts ++ rest).head?, isDigit c = false := by
  obtain ⟨hf, he, hne⟩ := ht
  cases hf with
  | present =>
    rintro c ⟨⟩
    decide
  | absent =>
    cases he with
    | absent => exact absurd rfl hne
    | present he _ =>
      rintro c ⟨⟩
      rcases he with rfl | rfl <;> decide

/-- The digits of a number, and what follows them. -/
theorem cutsOff_positive {ds ts rest : List Char} {k : Kind} (hd : IsPositive ds)
    (hdigit : ∀ c ∈ (ts ++ rest).head?, isDigit c = false)
    (hk : numberTail .integer ((ts ++ rest).map some) = (k, ts.length)) :
    CutsOff k (ds ++ ts) rest := by
  obtain @⟨d, ds, hd, h0, hds⟩ := hd
  have hdrop : ((ds ++ (ts ++ rest)).map some).drop ds.length = (ts ++ rest).map some := by
    rw [List.map_append, List.drop_left' (List.length_map _)]
  rw [List.cons_append]
  refine cutsOff_of_scanChar (isBlank_eq_false_of_isDigit hd) ?_
  rw [List.append_assoc, scanChar_digit hd h0, run_append hds hdigit, hdrop, hk, List.length_append]

/-- A hyphen, the digits of a number, and what follows them. -/
theorem cutsOff_negative {ds ts rest : List Char} {k : Kind} (hd : IsPositive ds)
    (hdigit : ∀ c ∈ (ts ++ rest).head?, isDigit c = false)
    (hk : numberTail .integer ((ts ++ rest).map some) = (k, ts.length)) :
    CutsOff k ('-' :: (ds ++ ts)) rest := by
  obtain @⟨d, ds, hd, h0, hds⟩ := hd
  have hrun : run isDigit ((d :: ds ++ (ts ++ rest)).map some) = (d :: ds).length :=
    run_append (List.forall_mem_cons.mpr ⟨hd, hds⟩) hdigit
  have hdrop : ((d :: ds ++ (ts ++ rest)).map some).drop (d :: ds).length
      = (ts ++ rest).map some := by
    rw [List.map_append, List.drop_left' (List.length_map _)]
  refine cutsOff_of_scanChar rfl ?_
  change negativeTail _ = _
  rw [List.append_assoc, negativeTail]
  · simp only [hrun, hdrop, hk, List.length_append]
    exact if_neg (Nat.succ_ne_zero ds.length)
  · rintro gs heq
    exact h0 (Option.some.inj (List.cons.inj heq).1)

/-- An integer is cut off where a number ends. -/
theorem IsInteger.cutsOff {cs rest : List Char} (h : IsInteger cs) (hr : EndsNumber rest) :
    CutsOff .integer cs rest := by
  have hdigit : ∀ c ∈ (([] : List Char) ++ rest).head?, isDigit c = false := isDigit_of_ends hr
  have hk : numberTail .integer (([] ++ rest).map some) = (.integer, ([] : List Char).length) :=
    numberTail_of_ends hr .integer
  cases h with
  | zero => exact cutsOff_of_scanChar rfl hk
  | positive h =>
    have hcut := cutsOff_positive h hdigit hk
    rwa [List.append_nil] at hcut
  | negative h =>
    have hcut := cutsOff_negative h hdigit hk
    rwa [List.append_nil] at hcut

/-- A decimal number is cut off where a number ends. -/
theorem IsDecimal.cutsOff {cs rest : List Char} (h : IsDecimal cs) (hr : EndsNumber rest) :
    CutsOff .decimal cs rest := by
  cases h with
  | unsigned hd ht =>
    have hk := numberTail_append ht hr .integer
    cases hd with
    | zero => exact cutsOff_of_scanChar rfl hk
    | positive hd => exact cutsOff_positive hd (ht.isDigit_head? rest) hk
  | @negative ds ts hd ht =>
    cases hd with
    | positive hd =>
      exact cutsOff_negative hd (ht.isDigit_head? rest) (numberTail_append ht hr .integer)
    | zero =>
      refine cutsOff_of_scanChar rfl ?_
      change negativeTail (some '0' :: (ts ++ rest).map some) = _
      rw [negativeTail, numberTail_append ht hr, List.length_append]
      rfl

theorem cutsOff_integer (i : Int) {rest : List Char} (h : EndsNumber rest) :
    CutsOff .integer (Text.integer i) rest :=
  (isInteger_integer i).cutsOff h

/-- A finite floating-point number in any layout is one token. -/
theorem cutsOff_float (l : Layout) {x : Float} (hx : isFinite x = true) {rest : List Char}
    (h : EndsNumber rest) : CutsOff .decimal (l.float x) rest :=
  (isDecimal_float l hx).cutsOff h

end JsonPath.Token
