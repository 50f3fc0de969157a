import JsonPath.Number.Layout
import JsonPath.Proofs.Number.Decimal
import JsonPath.Token.Literal

/-!
# The text of a floating-point number is read as the number

Whatever a `Layout` decides, it writes a finite number as a numeral: digits, and then a fraction or
an exponent. `Numeral` is what such a text consists of. A numeral is read as the decimal that it
shows, and the one that is written for a number shows a decimal in the interval of the number. So
a number is read as it was written (`float?_float`).
-/

namespace JsonPath.Number

open JsonPath.Text JsonPath.Token

/-! ## Numerals -/

theorem isDigit_of_mem_zeros (j : ℕ) : ∀ c ∈ List.replicate j '0', isDigit c = true := by
  intro c hc
  rw [List.eq_of_mem_replicate hc]
  decide

/-- An exponent: digits, at least one, behind a sign or without one. -/
inductive IsExponent : List Char → Prop
  | plain {ds} (hne : ds ≠ []) (hd : ∀ c ∈ ds, isDigit c = true) : IsExponent ds
  | minus {ds} (hne : ds ≠ []) (hd : ∀ c ∈ ds, isDigit c = true) : IsExponent ('-' :: ds)
  | plus {ds} (hne : ds ≠ []) (hd : ∀ c ∈ ds, isDigit c = true) : IsExponent ('+' :: ds)

/-- A numeral with a fraction or an exponent, or both. What is absent is empty. -/
structure Numeral where
  negative : Bool
  whole : List Char
  fraction : List Char
  exponent : List Char
  whole_ne_nil : whole ≠ []
  whole_digits : ∀ c ∈ whole, isDigit c = true
  /-- no other digit stands behind a leading zero -/
  leading : whole.head? = some '0' → whole = ['0']
  fraction_digits : ∀ c ∈ fraction, isDigit c = true
  exponent_form : exponent ≠ [] → IsExponent exponent
  decimal : fraction ≠ [] ∨ exponent ≠ []

namespace Numeral

/-- What stands behind the point, with the point, if there is a fraction. -/
def pointed (n : Numeral) : List Char :=
  if n.fraction = [] then [] else '.' :: n.fraction

/-- The exponent with its letter, if there is one. -/
def scaled (n : Numeral) : List Char :=
  if n.exponent = [] then [] else 'e' :: n.exponent

/-- A numeral without its sign. -/
def unsigned (n : Numeral) : List Char := n.whole ++ (n.pointed ++ n.scaled)

/-- The text of a numeral. -/
def text (n : Numeral) : List Char := if n.negative then '-' :: n.unsigned else n.unsigned

/-- The digits of a numeral. -/
def digits (n : Numeral) : ℕ := ofDigits (n.whole ++ n.fraction)

/-- The exponent of the last digit of a numeral. -/
def place (n : Numeral) : ℤ := Literal.exponentOf n.exponent - n.fraction.length

/-- Zero with a fraction. -/
def zero (negative : Bool) : Numeral where
  negative := negative
  whole := ['0']
  fraction := ['0']
  exponent := []
  whole_ne_nil := nofun
  whole_digits := isDigit_of_mem_zeros 1
  leading _ := rfl
  fraction_digits := isDigit_of_mem_zeros 1
  exponent_form := fun h => absurd rfl h
  decimal := .inl nofun

/-! ### Reading a numeral -/

/-- Digits are taken up to what is none. -/
theorem span_digits {ds rest : List Char} (hd : ∀ c ∈ ds, isDigit c = true)
    (hr : ∀ c ∈ rest.head?, isDigit c = false) : (ds ++ rest).span isDigit = (ds, rest) := by
  rw [List.span_eq_takeWhile_dropWhile, List.takeWhile_append_of_pos hd,
    List.dropWhile_append_of_pos hd]
  cases rest with
  | nil => simp
  | cons c cs => simp [hr c rfl]

theorem unsigned_ne_minus (n : Numeral) (cs : List Char) : n.unsigned ≠ '-' :: cs := by
  intro h
  obtain ⟨c, ds, hc⟩ := List.exists_cons_of_ne_nil n.whole_ne_nil
  rw [unsigned, hc, List.cons_append] at h
  have hd := n.whole_digits c (hc ▸ List.mem_cons_self)
  rw [(List.cons.inj h).1] at hd
  exact absurd hd (by decide)

theorem isDigit_of_mem_head?_scaled (n : Numeral) : ∀ c ∈ n.scaled.head?, isDigit c = false := by
  unfold scaled
  split
  · simp
  · simp [isDigit]

/-- The whole part of a numeral is taken up to its point or its exponent. -/
theorem span_unsigned (n : Numeral) :
    n.unsigned.span isDigit = (n.whole, n.pointed ++ n.scaled) := by
  refine span_digits n.whole_digits ?_
  unfold pointed
  split
  · exact n.isDigit_of_mem_head?_scaled
  · simp [isDigit]

theorem drop_scaled (n : Numeral) : n.scaled.drop 1 = n.exponent := by
  unfold scaled
  split
  · next h => rw [h, List.drop_nil]
  · rfl

/-- The digits behind a point, if there is one, and what follows them. -/
def splitFraction : List Char → List Char × List Char
  | '.' :: cs => cs.span isDigit
  | cs => ([], cs)

/-- The fraction is taken up to the exponent. -/
theorem splitFraction_pointed (n : Numeral) :
    splitFraction (n.pointed ++ n.scaled) = (n.fraction, n.scaled) := by
  by_cases h : n.fraction = []
  · rw [pointed, if_pos h, h, List.nil_append]
    by_cases he : n.exponent = []
    · rw [scaled, if_pos he]
      rfl
    · rw [scaled, if_neg he]
      rfl
  · rw [pointed, if_neg h]
    exact span_digits n.fraction_digits n.isDigit_of_mem_head?_scaled

/-- A numeral is read as the decimal that it shows. -/
theorem float?_text (n : Numeral) :
    Literal.float? (.ofList n.text) = ofDecimal? n.negative n.digits n.place := by
  have hrest (negative : Bool) :
      let f := splitFraction (n.pointed ++ n.scaled)
      ofDecimal? negative (ofDigits (n.whole ++ f.1)) (Literal.exponentOf (f.2.drop 1) - f.1.length)
        = ofDecimal? negative n.digits n.place := by
    rw [n.splitFraction_pointed]
    dsimp only
    rw [n.drop_scaled, digits, place]
  have htext : (String.ofList n.text).toList = n.text := String.toList_ofList
  unfold Literal.float?
  rw [htext, text]
  cases n.negative with
  | true =>
    simp only [if_true, n.span_unsigned]
    exact hrest true
  | false =>
    simp only [Bool.false_eq_true, if_false]
    split
    · next cs h => exact absurd h (n.unsigned_ne_minus cs)
    · simp only [n.span_unsigned]
      exact hrest false

end Numeral

/-! ## What is written is a numeral -/

namespace Layout

/-- The digits of a number other than zero. -/
structure AreDigits (ds : List Char) (n : ℕ) : Prop where
  ne_nil : ds ≠ []
  digits : ∀ c ∈ ds, isDigit c = true
  leading : ds.head? ≠ some '0'
  value : ofDigits ds = n

theorem areDigits_digits {n : ℕ} (hn : n ≠ 0) : AreDigits (Text.digits 10 n) n :=
  ⟨digits_ne_nil 10 n, isDigit_of_mem_digits n, head?_digits_ne_zero hn, ofDigits_digits n⟩

theorem isDigit_of_mem_append {ds es : List Char} (hd : ∀ c ∈ ds, isDigit c = true)
    (he : ∀ c ∈ es, isDigit c = true) : ∀ c ∈ ds ++ es, isDigit c = true := by
  intro c hc
  rcases List.mem_append.mp hc with hc | hc
  · exact hd c hc
  · exact he c hc

section Positional

variable {ds : List Char} {n : ℕ} (negative : Bool)

/-- All digits stand behind the point. -/
theorem exists_numeral_behind (h : AreDigits ds n) (zeros : ℕ) :
    ∃ m : Numeral, m.negative = negative ∧
      m.unsigned = '0' :: '.' :: (List.replicate zeros '0' ++ ds) ∧
      (m.digits * 10 ^ m.place : ℚ) = n * 10 ^ (-(zeros + ds.length) : ℤ) := by
  refine ⟨⟨negative, ['0'], List.replicate zeros '0' ++ ds, [], by simp, isDigit_of_mem_zeros 1,
    fun _ => rfl, isDigit_of_mem_append (isDigit_of_mem_zeros _) h.digits, fun h => absurd rfl h,
    .inl (by simp [h.ne_nil])⟩, rfl, ?_, ?_⟩
  · simp [Numeral.unsigned, Numeral.pointed, Numeral.scaled, h.ne_nil]
  · have hd : ofDigits ('0' :: (List.replicate zeros '0' ++ ds)) = n := by
      rw [← List.cons_append, ← List.replicate_succ, ofDigits_append, ofDigits_replicate_zero,
        h.value, Nat.zero_mul, Nat.zero_add]
    have hk : Literal.exponentOf [] - ((List.replicate zeros '0' ++ ds).length : ℤ)
        = -(zeros + ds.length) := by
      rw [List.length_append, List.length_replicate]
      simp only [Literal.exponentOf, ofDigits_nil]
      omega
    rw [Numeral.digits, Numeral.place, List.singleton_append, hd, hk]

/-- All digits stand in front of the point. -/
theorem exists_numeral_before (h : AreDigits ds n) (zeros : ℕ) :
    ∃ m : Numeral, m.negative = negative ∧
      m.unsigned = ds ++ List.replicate zeros '0' ++ ['.', '0'] ∧
      (m.digits * 10 ^ m.place : ℚ) = n * 10 ^ (zeros : ℤ) := by
  refine ⟨⟨negative, ds ++ List.replicate zeros '0', ['0'], [], by simp [h.ne_nil],
    isDigit_of_mem_append h.digits (isDigit_of_mem_zeros _), ?_, isDigit_of_mem_zeros 1,
    fun h => absurd rfl h, .inl (by simp)⟩, rfl, ?_, ?_⟩
  · rw [List.head?_append_of_ne_nil _ h.ne_nil]
    exact fun hz => absurd hz h.leading
  · simp [Numeral.unsigned, Numeral.pointed, Numeral.scaled]
  · have hd : ofDigits (ds ++ List.replicate zeros '0' ++ ['0']) = n * 10 ^ zeros * 10 := by
      rw [ofDigits_snoc, ofDigits_append, ofDigits_replicate_zero, h.value, List.length_replicate,
        Nat.mul_comm]
      rfl
    have hplace : Literal.exponentOf [] - ((['0'] : List Char).length : ℤ) = -1 := rfl
    rw [Numeral.digits, Numeral.place, hd, hplace]
    push_cast
    rw [zpow_natCast, zpow_neg_one, mul_inv_cancel_right₀ (by norm_num)]

/-- The point stands among the digits. -/
theorem exists_numeral_among (h : AreDigits ds n) {whole : ℕ} (hpos : 0 < whole)
    (hlt : whole < ds.length) :
    ∃ m : Numeral, m.negative = negative ∧
      m.unsigned = ds.take whole ++ '.' :: ds.drop whole ∧
      (m.digits * 10 ^ m.place : ℚ) = n * 10 ^ (whole - ds.length : ℤ) := by
  have htake : ds.take whole ≠ [] := List.ne_nil_of_length_pos (by rw [List.length_take]; omega)
  have hdrop : ds.drop whole ≠ [] := List.ne_nil_of_length_pos (by rw [List.length_drop]; omega)
  refine ⟨⟨negative, ds.take whole, ds.drop whole, [], htake,
    fun c hc => h.digits c (List.mem_of_mem_take hc), ?_,
    fun c hc => h.digits c (List.mem_of_mem_drop hc), fun h => absurd rfl h, .inl hdrop⟩,
    rfl, ?_, ?_⟩
  · intro hz
    have hhead : ds.head? = some '0' := by
      rw [← List.take_append_drop whole ds, List.head?_append_of_ne_nil _ htake, hz]
    exact absurd hhead h.leading
  · simp [Numeral.unsigned, Numeral.pointed, Numeral.scaled, hdrop]
  · have hd : ofDigits (ds.take whole ++ ds.drop whole) = n := by
      rw [List.take_append_drop, h.value]
    have hk : Literal.exponentOf [] - ((ds.drop whole).length : ℤ) = whole - ds.length := by
      rw [List.length_drop]
      simp only [Literal.exponentOf, ofDigits_nil]
      omega
    rw [Numeral.digits, Numeral.place, hd, hk]

theorem exists_numeral_positional (h : AreDigits ds n) {k place : ℤ}
    (hp : place = k + ds.length - 1) :
    ∃ m : Numeral, m.negative = negative ∧ m.unsigned = positional ds place ∧
      (m.digits * 10 ^ m.place : ℚ) = n * 10 ^ k := by
  have hlen : 0 < ds.length := List.length_pos_of_ne_nil h.ne_nil
  unfold positional
  split
  · next hneg =>
    obtain rfl : k = -((-place - 1).toNat + ds.length) := by omega
    exact exists_numeral_behind negative h _
  · dsimp only
    split
    · next hle =>
      obtain rfl : k = (place.toNat + 1 - ds.length : ℕ) := by omega
      exact exists_numeral_before negative h _
    · next hlt =>
      obtain rfl : k = (place.toNat + 1 : ℕ) - ds.length := by omega
      exact exists_numeral_among negative h (Nat.succ_pos _) (Nat.lt_of_not_le hlt)

end Positional

/-- An integer is an exponent, with or without a plus sign. -/
theorem signedInteger_spec (plusSign : Bool) (i : ℤ) :
    let e := (if plusSign && 0 ≤ i then ['+'] else []) ++ Text.integer i
    IsExponent e ∧ Literal.exponentOf e = i ∧ e ≠ [] := by
  have hdig := isDigit_of_mem_digits i.natAbs
  have hval := ofDigits_digits i.natAbs
  have hne := digits_ne_nil 10 i.natAbs
  unfold Text.integer
  generalize Text.digits 10 i.natAbs = ds at *
  dsimp only
  by_cases hi : i < 0
  · have hplus : (plusSign && decide (0 ≤ i)) = false := by simp [hi]
    rw [hplus, if_pos hi]
    refine ⟨.minus hne hdig, ?_, by simp⟩
    simp only [Bool.false_eq_true, if_false, List.nil_append, Literal.exponentOf, hval]
    omega
  · rw [if_neg hi]
    split
    · refine ⟨.plus hne hdig, ?_, by simp⟩
      simp only [List.singleton_append, Literal.exponentOf, hval]
      omega
    · refine ⟨.plain hne hdig, ?_, hne⟩
      rw [List.nil_append, Literal.exponentOf]
      · omega
      · rintro cs rfl
        exact absurd (hdig _ List.mem_cons_self) (by decide)
      · rintro cs rfl
        exact absurd (hdig _ List.mem_cons_self) (by decide)

/-- With the exponent of the leading digit. -/
theorem exists_numeral_scientific (negative plusSign : Bool) {ds : List Char} {n : ℕ}
    (h : AreDigits ds n) {k place : ℤ} (hp : place = k + ds.length - 1) :
    ∃ m : Numeral, m.negative = negative ∧ m.unsigned = scientific plusSign ds place ∧
      (m.digits * 10 ^ m.place : ℚ) = n * 10 ^ k := by
  obtain ⟨d, ds, rfl⟩ := List.exists_cons_of_ne_nil h.ne_nil
  obtain ⟨hform, hexp, hne'⟩ := signedInteger_spec plusSign place
  unfold scientific
  dsimp only
  generalize (if plusSign && 0 ≤ place then ['+'] else []) ++ Text.integer place = e at *
  refine ⟨⟨negative, [d], ds, e, by simp, ?_, ?_, ?_, fun _ => hform, .inr hne'⟩, rfl, ?_, ?_⟩
  · exact fun c hc => h.digits c (List.mem_cons.mpr (.inl (List.mem_singleton.mp hc)))
  · exact fun hz => absurd hz h.leading
  · exact fun c hc => h.digits c (List.mem_cons_of_mem _ hc)
  · cases ds <;> simp [Numeral.unsigned, Numeral.pointed, Numeral.scaled, hne']
  · have hk : Literal.exponentOf e - (ds.length : ℤ) = k := by
      rw [hexp, hp, List.length_cons]
      omega
    rw [Numeral.digits, Numeral.place, List.singleton_append, h.value, hk]

/-- However a decimal is laid out, it is a numeral of the same value. -/
theorem exists_numeral_decimal (l : Layout) (negative : Bool) {d : Decimal} (hd : d.digits ≠ 0) :
    ∃ m : Numeral, m.negative = negative ∧ m.unsigned = l.decimal d ∧
      (m.digits * 10 ^ m.place : ℚ) = d.value := by
  unfold decimal
  dsimp only
  split
  · exact exists_numeral_positional negative (areDigits_digits hd) rfl
  · exact exists_numeral_scientific negative l.plusSign (areDigits_digits hd) rfl

/-- A decimal in the interval of a number other than zero has digits. -/
theorem digits_shortest_ne_zero {b : Binary} (hb : b.significand ≠ 0) (tie : Tie) :
    (b.shortest tie).digits ≠ 0 := by
  intro h
  have hpos := (Binary.admits_shortest hb tie).pos hb
  rw [Decimal.value, h] at hpos
  simp at hpos

/-- A finite number is written as a numeral that is read as the number. -/
theorem exists_numeral_float (l : Layout) {x : Float} (hx : isFinite x = true) :
    ∃ m : Numeral, m.text = l.float x ∧ ofDecimal? m.negative m.digits m.place = some x := by
  unfold isFinite at hx
  split at hx
  · next b hb =>
    rw [float, hb]
    dsimp only
    unfold binary
    dsimp only
    by_cases hs : b.significand = 0
    · rw [if_pos hs]
      exact ⟨.zero b.negative, rfl, ofDecimal?_zero hb hs _⟩
    · rw [if_neg hs]
      obtain ⟨m, hneg, htext, hval⟩ :=
        l.exists_numeral_decimal b.negative (digits_shortest_ne_zero hs l.tie)
      refine ⟨m, ?_, ?_⟩
      · rw [Numeral.text, hneg, htext]
      · rw [hneg]
        refine ofDecimal?_eq hb hs ?_
        rw [hval]
        exact Binary.admits_shortest hs l.tie
  · cases hx

/-- A finite number is read as it is written, in any layout. -/
theorem float?_float (l : Layout) {x : Float} (hx : isFinite x = true) :
    Literal.float? (.ofList (l.float x)) = some x := by
  obtain ⟨m, htext, hm⟩ := l.exists_numeral_float hx
  rw [← htext, Numeral.float?_text, hm]

end Layout

end JsonPath.Number
