import JsonPath.Proofs.Number.Bits
import JsonPath.Proofs.Number.Shortest

/-!
# Reading a decimal for a floating-point number

Any decimal in the interval of a finite number is read as that number, however many digits it has
and wherever its point stands.
-/

namespace JsonPath.Number

/-! ## The range

Decimals far outside the range of floating-point numbers are settled by the number of their
digits. No decimal in the interval of a finite number is that far outside. -/

theorem lt_zpow_place (s : ℕ) (k : ℤ) :
    (s : ℚ) * 10 ^ k < 10 ^ (k + (Text.digits 10 s).length) := by
  have hs : (s : ℚ) < 10 ^ (Text.digits 10 s).length := by
    exact_mod_cast Text.lt_pow_length_digits s
  rw [zpow_add₀ (by norm_num), zpow_natCast, mul_comm]
  exact mul_lt_mul_of_pos_left hs (zpow_pos (by norm_num) k)

theorem zpow_place_le {s : ℕ} (hs : s ≠ 0) (k : ℤ) :
    (10 : ℚ) ^ (k + (Text.digits 10 s).length - 1) ≤ s * 10 ^ k := by
  have hlen : ((Text.digits 10 s).length : ℤ) - 1 = ((Text.digits 10 s).length - 1 : ℕ) := by
    have := List.length_pos_of_ne_nil (Text.digits_ne_nil 10 s)
    omega
  have hs : (10 : ℚ) ^ ((Text.digits 10 s).length - 1) ≤ s := by
    exact_mod_cast Text.pow_length_digits_le hs
  rw [add_sub_assoc, hlen, zpow_add₀ (by norm_num), zpow_natCast, mul_comm]
  exact mul_le_mul_of_nonneg_right hs (zpow_pos (by norm_num) k).le

theorem two_pow_lt_ten_pow {j k : ℕ} (hk : 0 < k) (h : j ≤ 3 * k) : (2 : ℚ) ^ j < 10 ^ k :=
  calc (2 : ℚ) ^ j ≤ 2 ^ (3 * k) := pow_le_pow_right₀ (by norm_num) h
    _ = 8 ^ k := by
        rw [pow_mul]
        norm_num
    _ < 10 ^ k := pow_lt_pow_left₀ (by norm_num) (by norm_num) hk.ne'

namespace Binary

variable {b : Binary} {x : ℚ}

/-- No decimal in the interval of a number is too small. -/
theorem Admits.not_tiny (hb : b.significand ≠ 0) (he : -1074 ≤ b.exponent) (h : b.Admits x) :
    (10 : ℚ) ^ (-401 : ℤ) < x := by
  have hp : (0 : ℚ) < 2 ^ b.exponent := zpow_pos (by norm_num) _
  have hone : (1 : ℚ) ≤ b.significand := by exact_mod_cast Nat.pos_of_ne_zero hb
  have hlow := h.rounds.low
  rw [le_div_iff₀ hp] at hlow
  calc (10 : ℚ) ^ (-401 : ℤ) = (10 ^ 401)⁻¹ := rfl
    _ < (2 ^ 1075)⁻¹ :=
        inv_strictAnti₀ (by positivity) (two_pow_lt_ten_pow (by decide) (by decide))
    _ = 1 / 2 * 2 ^ (-1074 : ℤ) := by
        rw [pow_succ, mul_inv, mul_comm, ← one_div, zpow_neg]
        rfl
    _ ≤ 1 / 2 * 2 ^ b.exponent := by
        gcongr
        norm_num
    _ ≤ (b.significand - 1 / 2) * 2 ^ b.exponent := by
        gcongr
        linarith
    _ ≤ x := hlow

/-- No decimal in the interval of a number is too great. -/
theorem Admits.not_huge (hs : b.significand < 2 ^ 53) (he : b.exponent ≤ 971) (h : b.Admits x) :
    x < (10 : ℚ) ^ (400 : ℤ) := by
  have hp : (0 : ℚ) < 2 ^ b.exponent := zpow_pos (by norm_num) _
  have hmax : (b.significand : ℚ) + 1 ≤ 2 ^ 53 := by exact_mod_cast hs
  have hhigh := h.rounds.high
  rw [div_le_iff₀ hp] at hhigh
  calc x ≤ (b.significand + 1 / 2) * 2 ^ b.exponent := hhigh
    _ ≤ 2 ^ 53 * 2 ^ b.exponent := by
        gcongr
        linarith
    _ ≤ 2 ^ 53 * 2 ^ (971 : ℤ) := by
        gcongr
        norm_num
    _ = 2 ^ 1024 := by
        rw [show (1024 : ℕ) = 53 + 971 from rfl, pow_add]
        rfl
    _ < 10 ^ 400 := two_pow_lt_ten_pow (by decide) (by decide)
    _ = 10 ^ (400 : ℤ) := (zpow_natCast 10 400).symm

end Binary

/-! ## Reading -/

/-- The number nearest to a decimal in the interval of a number is that number. -/
theorem nearestBits_of_admits {b : Binary} {s : ℕ} {k : ℤ} (hs : s ≠ 0)
    (hsig : IsSignificand b.significand b.exponent) (h : b.Admits (s * 10 ^ k)) :
    nearestBits (s * Nat.pow 10 k.toNat) (Nat.pow 10 (-k).toNat) = bitsOf b := by
  have hval : ((s * Nat.pow 10 k.toNat : ℕ) : ℚ) / (Nat.pow 10 (-k).toNat : ℕ) = s * 10 ^ k := by
    rw [zpow_eq_div (by norm_num) k]
    push_cast [Nat.pow_eq]
    rw [mul_div_assoc]
  refine nearestBits_eq ?_ ?_ hsig ?_ ?_
  · exact Nat.mul_ne_zero hs (Nat.pow_pos (by decide)).ne'
  · exact (Nat.pow_pos (by decide)).ne'
  · rw [hval]
    exact h.rounds
  · intro hm he
    have hnarrow : b.narrowBelow = true := by
      rw [Binary.narrowBelow, Bool.and_eq_true, beq_iff_eq, decide_eq_true_eq]
      exact ⟨hm, he⟩
    have h₁ := h.narrow hnarrow
    rw [hm] at h₁
    rw [hval]
    exact_mod_cast h₁

/-- What is read from a decimal in the interval of a number is the number. -/
theorem ofDecimal?_eq {x : Float} {b : Binary} (hx : denote x = .finite b)
    (hb : b.significand ≠ 0) {s : ℕ} {k : ℤ} (h : b.Admits (s * 10 ^ k)) :
    ofDecimal? b.negative s k = some x := by
  obtain ⟨hsig, hexp⟩ := significand_of_denote hx
  have hpos := h.pos hb
  have hs : s ≠ 0 := by
    rintro rfl
    simp at hpos
  have hlow : ¬ k + (Text.digits 10 s).length < -400 := by
    intro hlt
    have h₁ := h.not_tiny hb hsig.exponent
    have h₂ := lt_zpow_place s k
    have h₃ : (10 : ℚ) ^ (k + (Text.digits 10 s).length) ≤ 10 ^ (-401 : ℤ) :=
      zpow_le_zpow_right₀ (by norm_num) (by omega)
    linarith
  have hhigh : ¬ 400 < k + (Text.digits 10 s).length := by
    intro hlt
    have h₁ := h.not_huge hsig.lt hexp
    have h₂ := zpow_place_le hs k
    have h₃ : (10 : ℚ) ^ (400 : ℤ) ≤ 10 ^ (k + (Text.digits 10 s).length - 1) :=
      zpow_le_zpow_right₀ (by norm_num) (by omega)
    linarith
  have hmax : bitsOf b < infinityBits := by
    have h₁ := hsig.lt
    have h₂ : infinityBits = 2047 * 2 ^ 52 := rfl
    rw [bitsOf, h₂]
    omega
  rw [ofDecimal?, if_neg hs]
  dsimp only
  rw [if_neg hlow, if_neg hhigh, nearestBits_of_admits hs hsig h, if_pos hmax,
    ofSignBits_of_denote hx]

/-- What is read from zero is zero, with its sign. -/
theorem ofDecimal?_zero {x : Float} {b : Binary} (hx : denote x = .finite b)
    (hb : b.significand = 0) (k : ℤ) : ofDecimal? b.negative 0 k = some x := by
  have hbits : bitsOf b = 0 := by
    rw [bitsOf, hb, exponent_of_denote hx hb]
    rfl
  rw [ofDecimal?, if_pos rfl, ← hbits, ofSignBits_of_denote hx]

/-- Whatever is read from a decimal is finite. -/
theorem isFinite_of_ofDecimal? {negative : Bool} {s : ℕ} {k : ℤ} {x : Float}
    (h : ofDecimal? negative s k = some x) : isFinite x = true := by
  have hzero : (0 : ℕ) < infinityBits := by decide
  unfold ofDecimal? at h
  dsimp only at h
  split at h
  · cases h
    exact isFinite_ofSignBits hzero _
  · split at h
    · cases h
      exact isFinite_ofSignBits hzero _
    · split at h
      · cases h
      · split at h
        · next hlt =>
          cases h
          exact isFinite_ofSignBits hlt _
        · cases h

end JsonPath.Number
