import Mathlib.Data.List.Induction
import Mathlib.Tactic.Ring
import JsonPath.Text.Numeral

/-!
# Numerals are read as they are written

The digits of a number denote that number, and so does an integer with its sign. The number of
digits says between which powers of ten the number lies.
-/

namespace JsonPath.Text

/-! ## Single digits -/

theorem isDigit_digitChar {d : Nat} (h : d < 10) : isDigit (digitChar d) = true := by
  revert d
  decide

/-- A digit that is written is read as its value. -/
theorem decimalValue?_digitChar {d : Nat} (h : d < 10) :
    decimalValue? (digitChar d) = some d := by
  revert d
  decide

theorem digitChar_ne_zero {d : Nat} (h : d < 10) (h0 : d ≠ 0) : digitChar d ≠ '0' := by
  revert d
  decide

/-! ## Digits

Digits are written from the last one to the first, so everything about them is shown for one digit,
and for a number with one digit less. -/

/-- Induction on the decimal digits of a number, the last one taken off at each step. -/
theorem digits_induction {P : Nat → Prop} (one : ∀ n, n < 10 → P n)
    (more : ∀ n, 10 ≤ n → P (n / 10) → P n) (n : Nat) : P n := by
  induction n using Nat.strongRecOn with
  | ind n ih =>
    by_cases h : n < 10
    · exact one n h
    · exact more n (Nat.le_of_not_lt h) (ih _ (by omega))

/-- A number is written with digits only. -/
theorem isDigit_of_mem_digits (n : Nat) : ∀ c ∈ digits 10 n, isDigit c = true := by
  induction n using digits_induction with
  | one n h =>
    rw [digits_of_lt h]
    intro c hc
    rw [List.mem_singleton.mp hc]
    exact isDigit_digitChar h
  | more n h ih =>
    rw [digits_of_le (by decide) h]
    intro c hc
    rcases List.mem_append.mp hc with hc | hc
    · exact ih c hc
    · rw [List.mem_singleton.mp hc]
      exact isDigit_digitChar (Nat.mod_lt _ (by decide))

/-- A number is what its digits denote. -/
theorem ofDigits_digits (n : Nat) : ofDigits (digits 10 n) = n := by
  induction n using digits_induction with
  | one n h =>
    have hs := ofDigits_snoc [] (digitChar n)
    rw [digits_of_lt h, ← List.nil_append [digitChar n], hs, decimalValue?_digitChar h]
    simp
  | more n h ih =>
    rw [digits_of_le (by decide) h, ofDigits_snoc, ih,
      decimalValue?_digitChar (Nat.mod_lt _ (by decide)), Option.getD_some]
    exact Nat.div_add_mod n 10

/-- No numeral of several digits starts with a zero. -/
theorem head?_digits_ne_zero {n : Nat} (hn : n ≠ 0) : (digits 10 n).head? ≠ some '0' := by
  induction n using digits_induction with
  | one n h =>
    rw [digits_of_lt h, List.head?_cons]
    exact fun h0 => digitChar_ne_zero h hn (Option.some.inj h0)
  | more n h ih =>
    have ih := ih (by omega)
    obtain ⟨d, ds, hds⟩ := List.exists_cons_of_ne_nil (digits_ne_nil 10 (n / 10))
    rw [hds] at ih
    rw [digits_of_le (by decide) h, hds]
    exact ih

theorem digits_zero : digits 10 0 = ['0'] := digits_of_lt (by decide)

/-- A number is less than the power of ten that its digits make room for. -/
theorem lt_pow_length_digits (n : Nat) : n < 10 ^ (digits 10 n).length := by
  induction n using digits_induction with
  | one n h =>
    rw [digits_of_lt h]
    simpa using h
  | more n h ih =>
    rw [digits_of_le (by decide) h, List.length_append, List.length_singleton, Nat.pow_succ]
    omega

/-- And it is no less than the power of ten at its first digit. -/
theorem pow_length_digits_le {n : Nat} (hn : n ≠ 0) : 10 ^ ((digits 10 n).length - 1) ≤ n := by
  induction n using digits_induction with
  | one n h =>
    rw [digits_of_lt h, List.length_singleton]
    exact Nat.pos_of_ne_zero hn
  | more n h ih =>
    have ih := ih (by omega)
    obtain ⟨k, hk⟩ : ∃ k, (digits 10 (n / 10)).length = k + 1 :=
      Nat.exists_eq_succ_of_ne_zero fun h0 => digits_ne_nil _ _ (List.eq_nil_of_length_eq_zero h0)
    rw [hk, Nat.add_sub_cancel] at ih
    rw [digits_of_le (by decide) h, List.length_append, List.length_singleton, hk,
      Nat.add_sub_cancel, Nat.pow_succ]
    omega

/-! ## The value of digits -/

/-- Digits behind others count less by as many powers of ten. -/
theorem ofDigits_append (as bs : List Char) :
    ofDigits (as ++ bs) = ofDigits as * 10 ^ bs.length + ofDigits bs := by
  induction bs using List.reverseRecOn with
  | nil => simp
  | append_singleton bs c ih =>
    rw [← List.append_assoc, ofDigits_snoc, ih, ofDigits_snoc, List.length_append,
      List.length_singleton, Nat.pow_succ]
    ring

theorem ofDigits_replicate_zero (n : Nat) : ofDigits (List.replicate n '0') = 0 := by
  induction n with
  | zero => rfl
  | succ n ih =>
    rw [List.replicate_succ', ofDigits_snoc, ih]
    rfl

/-! ## Integers -/

/-- An integer is what is written for it. -/
theorem ofInteger_integer (i : Int) : ofInteger (integer i) = i := by
  unfold integer
  split
  · next h =>
    rw [ofInteger, ofDigits_digits]
    omega
  · next h =>
    have hd := isDigit_of_mem_digits i.natAbs
    generalize hds : digits 10 i.natAbs = ds at hd
    rw [ofInteger, ← hds, ofDigits_digits]
    · omega
    · rintro cs rfl
      exact absurd (hd '-' List.mem_cons_self) (by decide)

end JsonPath.Text
