import Mathlib.Algebra.Order.Field.Rat
import Mathlib.Algebra.Order.Field.Power
import Mathlib.Data.Nat.Cast.Order.Field
import Mathlib.Tactic.FieldSimp
import Mathlib.Tactic.Linarith
import Mathlib.Tactic.NormNum
import Mathlib.Tactic.Positivity
import Mathlib.Tactic.Ring
import JsonPath.Number.Nearest

/-!
# Rounding to the nearest

The number nearest to a quotient is computed in natural numbers. Here it is described by the
rational number that the quotient is: `RoundsTo x n` says that the integer `n` is the nearest to
`x`, or the even one of the two nearest. A significand that is the nearest in this sense to the
quotient in units of its last place is the one that is computed (`nearestBits_eq`).
-/

namespace JsonPath.Number

/-! ## Powers -/

theorem zpow_eq_div {a : ℚ} (ha : a ≠ 0) (k : ℤ) :
    a ^ k = a ^ k.toNat / a ^ (-k).toNat := by
  rw [eq_div_iff (pow_ne_zero _ ha), ← zpow_natCast, ← zpow_natCast, ← zpow_add₀ ha]
  congr 1
  omega

/-! ## Integers -/

/-- The integer `n` is the nearest to `x`, or the even one of the two nearest. -/
structure RoundsTo (x : ℚ) (n : ℕ) : Prop where
  low : n - 1 / 2 ≤ x
  high : x ≤ n + 1 / 2
  odd : n % 2 = 1 → n - 1 / 2 < x ∧ x < n + 1 / 2

/-- The integer nearest to a quotient is the quotient without its remainder, or the next one. -/
theorem RoundsTo.eq_div_or {num den n : ℕ} (hd : 0 < den) (h : RoundsTo (num / den) n) :
    n = num / den ∨ n = num / den + 1 := by
  have hle : ((num / den : ℕ) : ℚ) ≤ num / den := Nat.cast_div_le
  have hlt : (num / den : ℚ) < (num / den : ℕ) + 1 := by
    rw [div_lt_iff₀ (Nat.cast_pos.mpr hd), mul_comm]
    exact_mod_cast Nat.lt_mul_div_succ num hd
  have low := h.low
  have high := h.high
  have h₁ : num / den < n + 1 := by
    have h : ((num / den : ℕ) : ℚ) < n + 1 := by linarith
    exact_mod_cast h
  have h₂ : n < num / den + 2 := by
    have h : (n : ℚ) < (num / den : ℕ) + 2 := by linarith
    exact_mod_cast h
  omega

/-- The rounded quotient is the integer that the quotient rounds to. -/
theorem roundQuotient_eq {num den n : ℕ} (hd : 0 < den) (h : RoundsTo (num / den) n) :
    roundQuotient num den = n := by
  have hd' : (0 : ℚ) < den := Nat.cast_pos.mpr hd
  have hdiv : (num : ℚ) = den * (num / den : ℕ) + (num % den : ℕ) := by
    exact_mod_cast (Nat.div_add_mod num den).symm
  have hq := h.eq_div_or hd
  obtain ⟨low, high, odd⟩ := h
  rw [le_div_iff₀ hd'] at low
  rw [div_le_iff₀ hd'] at high
  rw [lt_div_iff₀ hd', div_lt_iff₀ hd'] at odd
  unfold roundQuotient
  generalize num / den = q at hdiv hq ⊢
  generalize num % den = r at hdiv ⊢
  dsimp only
  obtain rfl | rfl := hq
  · -- the remainder is at most half of the divisor
    have h₁ : 2 * r ≤ den := by
      have h : (2 : ℚ) * r ≤ den := by linarith
      exact_mod_cast h
    rcases Nat.lt_or_eq_of_le h₁ with h₁ | h₁
    · rw [Nat.compare_eq_lt.mpr h₁]
    · rw [Nat.compare_eq_eq.mpr h₁]
      refine if_pos ?_
      by_contra hn
      have h₂ := (odd (by omega)).2
      have h₃ : (2 : ℚ) * r = den := by exact_mod_cast h₁
      linarith
  · -- the remainder is at least half of the divisor
    push_cast at low high odd
    have h₁ : den ≤ 2 * r := by
      have h : (den : ℚ) ≤ 2 * r := by linarith
      exact_mod_cast h
    rcases Nat.lt_or_eq_of_le h₁ with h₁ | h₁
    · rw [Nat.compare_eq_gt.mpr h₁]
    · rw [Nat.compare_eq_eq.mpr h₁.symm]
      refine if_neg ?_
      intro hn
      have h₂ := (odd (by omega)).1
      have h₃ : (den : ℚ) = 2 * r := by exact_mod_cast h₁
      linarith

/-! ## The place of the leading digit -/

theorem pow_log2_le_cast {n : ℕ} (hn : n ≠ 0) : (2 : ℚ) ^ (n.log2 : ℤ) ≤ n := by
  rw [zpow_natCast]
  exact_mod_cast Nat.log2_self_le hn

theorem cast_lt_pow_log2 (n : ℕ) : (n : ℚ) < 2 ^ ((n.log2 : ℤ) + 1) := by
  have h : n < 2 ^ (n.log2 + 1) := Nat.lt_log2_self
  have h : (n : ℚ) < 2 ^ (n.log2 + 1) := by exact_mod_cast h
  exact_mod_cast h

/-- The leading binary digit of a quotient is the place of the greatest power of two that does not
exceed it. -/
theorem leadingPlace_spec {num den : ℕ} (hn : num ≠ 0) (hd : den ≠ 0) :
    (2 : ℚ) ^ leadingPlace num den ≤ num / den ∧
      (num / den : ℚ) < 2 ^ (leadingPlace num den + 1) := by
  have h2 : (2 : ℚ) ≠ 0 := by norm_num
  have hd' : (0 : ℚ) < den := Nat.cast_pos.mpr (Nat.pos_of_ne_zero hd)
  have hlow : (2 : ℚ) ^ ((num.log2 : ℤ) - den.log2 - 1) ≤ num / den := by
    rw [le_div_iff₀ hd']
    calc (2 : ℚ) ^ ((num.log2 : ℤ) - den.log2 - 1) * den
        ≤ 2 ^ ((num.log2 : ℤ) - den.log2 - 1) * 2 ^ ((den.log2 : ℤ) + 1) := by
          gcongr
          exact (cast_lt_pow_log2 den).le
      _ = 2 ^ (num.log2 : ℤ) := by
          rw [← zpow_add₀ h2]
          congr 1
          ring
      _ ≤ num := pow_log2_le_cast hn
  have hhigh : (num / den : ℚ) < 2 ^ ((num.log2 : ℤ) - den.log2 + 1) := by
    rw [div_lt_iff₀ hd']
    calc (num : ℚ) < 2 ^ ((num.log2 : ℤ) + 1) := cast_lt_pow_log2 num
      _ = 2 ^ ((num.log2 : ℤ) - den.log2 + 1) * 2 ^ (den.log2 : ℤ) := by
          rw [← zpow_add₀ h2]
          congr 1
          ring
      _ ≤ 2 ^ ((num.log2 : ℤ) - den.log2 + 1) * den := by
          gcongr
          exact pow_log2_le_cast hd
  -- The leading place is one of two, and which of them it is shows when both sides are multiplied
  -- out.
  have hk : (den * 2 ^ ((num.log2 : ℤ) - den.log2).toNat
      ≤ num * 2 ^ (-((num.log2 : ℤ) - den.log2)).toNat) ↔
        (2 : ℚ) ^ ((num.log2 : ℤ) - den.log2) ≤ num / den := by
    rw [zpow_eq_div h2, div_le_div_iff₀ (by positivity) hd', mul_comm (2 ^ _ : ℚ)]
    exact_mod_cast Iff.rfl
  unfold leadingPlace
  simp only [Nat.pow_eq]
  split
  · next h => exact ⟨hk.mp h, hhigh⟩
  · next h =>
    refine ⟨hlow, ?_⟩
    rw [Int.sub_add_cancel]
    exact lt_of_not_ge fun hle => h (hk.mpr hle)

/-! ## Significands

The bits of a number are its significand, with the exponent counted from the least one on top: the
leading bit of a significand adds one to the exponent, and is missing only at the least exponent. -/

/-- A significand of at most fifty-three bits, and of no fewer unless the exponent is the least. -/
structure IsSignificand (m : ℕ) (e : ℤ) : Prop where
  exponent : -1074 ≤ e
  lt : m < 2 ^ 53
  leading : -1074 < e → 2 ^ 52 ≤ m

/-- The bits of the nearest float, if the quotient in units of its last place rounds to `n`. -/
theorem nearestBits_of_roundsTo {num den n : ℕ} {p : ℤ} (hn : num ≠ 0) (hd : den ≠ 0)
    (hp : max (leadingPlace num den - 52) (-1074) = p)
    (h : RoundsTo (num / den / 2 ^ p) n) :
    nearestBits num den = (p + 1074).toNat * 2 ^ 52 + n := by
  have hx : (num / den / 2 ^ p : ℚ)
      = ((num * Nat.pow 2 (-p).toNat : ℕ) : ℚ) / ((den * Nat.pow 2 p.toNat : ℕ) : ℚ) := by
    rw [zpow_eq_div (by norm_num) p]
    push_cast [Nat.pow_eq]
    field_simp
  have hden : 0 < den * Nat.pow 2 p.toNat :=
    Nat.mul_pos (Nat.pos_of_ne_zero hd) (Nat.pow_pos (by decide))
  rw [hx] at h
  rw [nearestBits, if_neg hn]
  dsimp only
  rw [hp, roundQuotient_eq hden h, Nat.pow_eq]

/-- What is below a power of two and rounded to a significand of all bits is rounded up to it. -/
theorem RoundsTo.eq_two_pow {y : ℚ} {m : ℕ} (h : RoundsTo y m) (hm : 2 ^ 52 ≤ m)
    (hy : y < 2 ^ 52) : m = 2 ^ 52 := by
  have hlow := h.low
  have hlt : (m : ℚ) < ((2 ^ 52 + 1 : ℕ) : ℚ) := by
    push_cast
    linarith
  have hlt : m < 2 ^ 52 + 1 := by exact_mod_cast hlt
  exact Nat.le_antisymm (Nat.le_of_lt_succ hlt) hm

/-- In the units below a power of two, which are half as large, what is near enough to it is still
rounded up to it. -/
theorem roundsTo_two_mul {y : ℚ} (hquarter : (2 : ℚ) ^ 52 - 1 / 4 ≤ y) (hy : y < 2 ^ 52) :
    RoundsTo (2 * y) (2 ^ 53) := by
  refine ⟨?_, ?_, fun hodd => absurd hodd (by decide)⟩
  · push_cast
    linarith
  · push_cast
    linarith

/-- The bits of the number nearest to a quotient. Below a power of two the next number is only half
as far away, so there the quotient has to be nearer. -/
theorem nearestBits_eq {num den m : ℕ} {e : ℤ} (hn : num ≠ 0) (hd : den ≠ 0)
    (hm : IsSignificand m e) (h : RoundsTo (num / den / 2 ^ e) m)
    (hnarrow : m = 2 ^ 52 → -1074 < e → (2 : ℚ) ^ 52 - 1 / 4 ≤ num / den / 2 ^ e) :
    nearestBits num den = (e + 1074).toNat * 2 ^ 52 + m := by
  have h2 : (2 : ℚ) ≠ 0 := by norm_num
  have h1 : (1 : ℚ) < 2 := by norm_num
  obtain ⟨hlow, hhigh⟩ := leadingPlace_spec hn hd
  generalize hk : leadingPlace num den = k at hlow hhigh
  generalize hx : (num / den : ℚ) = x at hlow hhigh h hnarrow
  have he : (0 : ℚ) < 2 ^ e := zpow_pos (by norm_num) e
  -- the leading digit in units of the last place
  have hlow' : (2 : ℚ) ^ (k - e) ≤ x / 2 ^ e := by
    rw [zpow_sub₀ h2]
    gcongr
  have hhigh' : x / 2 ^ e < (2 : ℚ) ^ (k + 1 - e) := by
    rw [zpow_sub₀ h2]
    gcongr
  have hlt : (m : ℚ) + 1 ≤ 2 ^ (53 : ℤ) := by
    exact_mod_cast hm.lt
  have hke : k - e < 53 := by
    rw [← zpow_lt_zpow_iff_right₀ h1]
    have := h.high
    linarith
  by_cases hpe : max (k - 52) (-1074) = e
  · exact nearestBits_of_roundsTo hn hd (hk ▸ hpe) (hx ▸ h)
  · -- the quotient lies below a power of two, and is rounded up to it
    have hek : -1074 < e ∧ k + 1 - e ≤ 52 := by
      have := hm.exponent
      omega
    have hy : x / 2 ^ e < (2 : ℚ) ^ 52 := by
      exact_mod_cast lt_of_lt_of_le hhigh' (zpow_le_zpow_right₀ h1.le hek.2)
    have hmle : m = 2 ^ 52 := h.eq_two_pow (hm.leading hek.1) hy
    have hquarter := hnarrow hmle hek.1
    have hke' : 51 < k + 1 - e := by
      rw [← zpow_lt_zpow_iff_right₀ h1]
      norm_num at hquarter ⊢
      linarith
    have hr : RoundsTo (x / 2 ^ (e - 1)) (2 ^ 53) := by
      have hdouble : x / 2 ^ (e - 1) = 2 * (x / 2 ^ e) := by
        rw [zpow_sub_one₀ h2]
        field_simp
      exact hdouble ▸ roundsTo_two_mul hquarter hy
    rw [nearestBits_of_roundsTo hn hd (p := e - 1) (by omega) (hx ▸ hr), hmle]
    omega

end JsonPath.Number
