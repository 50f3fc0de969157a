import JsonPath.Proofs.Lexing.Literal
import JsonPath.Proofs.Number.Layout

/-!
# The lexical grammar

Which texts are names, numbers and strings, said by how they are made up and without regard to how a
text is scanned. `Lexeme k cs` says so for all four kinds. What the printer writes for an integer or
a floating-point number is among them; it could write either in several other ways.
-/

namespace JsonPath.Token

open JsonPath.Text JsonPath.Number

/-! ## Numbers -/

/-- Digits that do not start with a zero. -/
inductive IsPositive : List Char → Prop
  | mk {d ds} (hd : isDigit d = true) (h0 : d ≠ '0') (hds : ∀ c ∈ ds, isDigit c = true) :
    IsPositive (d :: ds)

/-- An integer. There is no negative zero among them. -/
inductive IsInteger : List Char → Prop
  | zero : IsInteger ['0']
  | positive {ds} (h : IsPositive ds) : IsInteger ds
  | negative {ds} (h : IsPositive ds) : IsInteger ('-' :: ds)

/-- The digits in front of a fraction or an exponent. -/
inductive IsWhole : List Char → Prop
  | zero : IsWhole ['0']
  | positive {ds} (h : IsPositive ds) : IsWhole ds

/-- A fraction of at least one digit, or nothing. -/
inductive IsFraction : List Char → Prop
  | absent : IsFraction []
  | present {ds} (hne : ds ≠ []) (hds : ∀ c ∈ ds, isDigit c = true) : IsFraction ('.' :: ds)

/-- An exponent with its letter, or nothing. -/
inductive IsScale : List Char → Prop
  | absent : IsScale []
  | present {e es} (he : e = 'e' ∨ e = 'E') (h : IsExponent es) : IsScale (e :: es)

/-- What stands behind the digits of a number: a fraction, an exponent, or both. -/
inductive IsTail : List Char → Prop
  | mk {fs es} (hf : IsFraction fs) (he : IsScale es) (hne : fs ++ es ≠ []) : IsTail (fs ++ es)

/-- A number with a fraction, an exponent, or both. -/
inductive IsDecimal : List Char → Prop
  | unsigned {ds ts} (hd : IsWhole ds) (ht : IsTail ts) : IsDecimal (ds ++ ts)
  | negative {ds ts} (hd : IsWhole ds) (ht : IsTail ts) : IsDecimal ('-' :: (ds ++ ts))

/-! ## All kinds -/

/-- A row of signs between two quotes of the same sort. -/
inductive IsString : List Char → Prop
  | mk {quote ws cs} (hq : quote = '\'' ∨ quote = '"') (h : Literal.Inside quote ws cs) :
    IsString (quote :: (ws ++ [quote]))

/-- The text is one of the given kind. -/
inductive Lexeme : Kind → List Char → Prop
  | name {cs} (h : isName cs = true) : Lexeme .name cs
  | integer {cs} (h : IsInteger cs) : Lexeme .integer cs
  | decimal {cs} (h : IsDecimal cs) : Lexeme .decimal cs
  | string {cs} (h : IsString cs) : Lexeme .string cs

/-! ## What is written -/

/-- Digits without a zero in front are a positive number. -/
theorem isPositive_of_head? {ds : List Char} (hne : ds ≠ []) (hd : ∀ c ∈ ds, isDigit c = true)
    (hhead : ds.head? ≠ some '0') : IsPositive ds := by
  obtain ⟨d, ds, rfl⟩ := List.exists_cons_of_ne_nil hne
  exact .mk (hd d List.mem_cons_self) (fun h0 => hhead (congrArg some h0))
    fun c hc => hd c (List.mem_cons_of_mem _ hc)

theorem isPositive_digits {n : Nat} (hn : n ≠ 0) : IsPositive (digits 10 n) :=
  isPositive_of_head? (digits_ne_nil 10 n) (isDigit_of_mem_digits n) (head?_digits_ne_zero hn)

/-- An integer is written as one. -/
theorem isInteger_integer (i : Int) : IsInteger (Text.integer i) := by
  unfold Text.integer
  split
  · next hneg => exact .negative (isPositive_digits (by omega))
  · by_cases h0 : i.natAbs = 0
    · rw [h0, digits_zero]
      exact .zero
    · exact .positive (isPositive_digits h0)

/-- A numeral with a point or an exponent is written as a decimal number. -/
theorem isDecimal_numeral (n : Numeral) : IsDecimal n.text := by
  have hwhole : IsWhole n.whole := by
    by_cases h0 : n.whole.head? = some '0'
    · rw [n.leading h0]
      exact .zero
    · exact .positive (isPositive_of_head? n.whole_ne_nil n.whole_digits h0)
  have hfraction : IsFraction n.pointed := by
    unfold Numeral.pointed
    split
    · exact .absent
    · next hne => exact .present hne n.fraction_digits
  have hscale : IsScale n.scaled := by
    unfold Numeral.scaled
    split
    · exact .absent
    · next hne => exact .present (.inl rfl) (n.exponent_form hne)
  have htail : IsTail (n.pointed ++ n.scaled) := by
    refine .mk hfraction hscale ?_
    rcases n.decimal with hf | he
    · simp [Numeral.pointed, hf]
    · simp [Numeral.scaled, he]
  unfold Numeral.text
  split
  · exact .negative hwhole htail
  · exact .unsigned hwhole htail

/-- A finite number is written as a number with a fraction or an exponent, in any layout. -/
theorem isDecimal_float (l : Layout) {x : Float} (hx : isFinite x = true) :
    IsDecimal (l.float x) := by
  obtain ⟨n, hn, -⟩ := l.exists_numeral_float hx
  rw [← hn]
  exact isDecimal_numeral n

end JsonPath.Token
