import JsonPath.Number.Shortest
import JsonPath.Proofs.Number.Rounding
import JsonPath.Proofs.Numeral

/-!
# The shortest decimal is read as the number itself

A decimal is admitted for a binary number if it lies in the interval of the numbers that are
rounded to it; the shortest one is searched for among these, so it is one of them
(`admits_shortest`). What is read from any decimal in the interval is the binary number
(`ofDecimal?_eq`). Nothing depends on where the search finds a decimal, or on how short it is.
-/

namespace JsonPath.Number

/-! ## The value of a decimal -/

/-- The rational number that a decimal denotes. -/
def Decimal.value (d : Decimal) : ℚ := d.digits * 10 ^ d.exponent

/-- Both sides of a comparison of a decimal and a binary number, free of fractions. -/
theorem Decimal.orderBinary_eq (d : Decimal) (n : ℕ) (e : ℤ) :
    d.orderBinary n e = compare d.value (n * 2 ^ e) := by
  have hc : (0 : ℚ) < 10 ^ (-d.exponent).toNat * 2 ^ (-e).toNat := by positivity
  have hl : ((d.digits * Nat.pow 10 d.exponent.toNat * Nat.pow 2 (-e).toNat : ℕ) : ℚ)
      = d.value * (10 ^ (-d.exponent).toNat * 2 ^ (-e).toNat) := by
    rw [Decimal.value, zpow_eq_div (by norm_num) d.exponent]
    push_cast [Nat.pow_eq]
    field_simp
  have hr : ((n * Nat.pow 2 e.toNat * Nat.pow 10 (-d.exponent).toNat : ℕ) : ℚ)
      = n * 2 ^ e * (10 ^ (-d.exponent).toNat * 2 ^ (-e).toNat) := by
    rw [zpow_eq_div (by norm_num) e]
    push_cast [Nat.pow_eq]
    field_simp
  have hlt (x y : ℚ) : x * (10 ^ (-d.exponent).toNat * 2 ^ (-e).toNat)
      < y * (10 ^ (-d.exponent).toNat * 2 ^ (-e).toNat) ↔ x < y := mul_lt_mul_iff_left₀ hc
  unfold Decimal.orderBinary
  rcases lt_trichotomy d.value (n * 2 ^ e) with h | h | h
  · rw [compare_lt_iff_lt.mpr h, Nat.compare_eq_lt]
    rw [← hlt, ← hl, ← hr] at h
    exact_mod_cast h
  · rw [compare_eq_iff_eq.mpr h, Nat.compare_eq_eq]
    rw [h, ← hr] at hl
    exact_mod_cast hl
  · rw [compare_gt_iff_gt.mpr h, Nat.compare_eq_gt]
    rw [← hlt, ← hl, ← hr] at h
    exact_mod_cast h

theorem Decimal.value_stripped (d : Decimal) : d.stripped.value = d.value := by
  induction d using Decimal.stripped.induct with
  | case1 d h ih =>
    rw [Decimal.stripped, dif_pos h, ih, Decimal.value, Decimal.value, zpow_add_one₀ (by norm_num)]
    have hd : (d.digits : ℚ) = 10 * (d.digits / 10 : ℕ) := by
      exact_mod_cast (Nat.mul_div_cancel' (Nat.dvd_of_mod_eq_zero h.2)).symm
    rw [hd]
    ring
  | case2 d h => rw [Decimal.stripped, dif_neg h]

/-! ## The interval of a number -/

namespace Binary

/-- The rational number `x` is rounded to the significand of `b`, in units of its last place. -/
structure Admits (b : Binary) (x : ℚ) : Prop where
  rounds : RoundsTo (x / 2 ^ b.exponent) b.significand
  narrow : b.narrowBelow = true → (b.significand : ℚ) - 1 / 4 ≤ x / 2 ^ b.exponent

/-- A decimal that is found to be in the interval is in the interval. -/
theorem admits_value {b : Binary} {d : Decimal} (hb : b.significand ≠ 0)
    (h : b.admits d = true) : b.Admits d.value := by
  have he : (0 : ℚ) < 2 ^ b.exponent := zpow_pos (by norm_num) _
  have hquarter (x : ℚ) : x * 2 ^ (b.exponent - 2) = x / 4 * 2 ^ b.exponent := by
    rw [zpow_sub₀ (by norm_num)]
    ring
  simp only [admits, Decimal.orderBinary_eq, Bool.and_eq_true, Bool.or_eq_true, beq_iff_eq,
    compare_gt_iff_gt, compare_lt_iff_lt, compare_eq_iff_eq, hquarter] at h
  rw [← lt_div_iff₀ he, ← div_eq_iff he.ne', ← div_lt_iff₀ he, ← div_eq_iff he.ne'] at h
  obtain ⟨hlow, hhigh⟩ := h
  have hlow4 : ((4 * b.significand - if b.narrowBelow = true then 1 else 2 : ℕ) : ℚ)
      = 4 * b.significand - if b.narrowBelow = true then 1 else 2 := by
    rw [Nat.cast_sub (by split <;> omega)]
    split <;> simp
  rw [hlow4] at hlow
  push_cast at hhigh
  generalize hy : d.value / 2 ^ b.exponent = y at hlow hhigh
  have hhigh' : y ≤ b.significand + 1 / 2 := by
    rcases hhigh with h | ⟨-, h⟩ <;> linarith
  -- Below a power of two the numbers lie closer, so the lower bound depends on the significand.
  by_cases hn : b.narrowBelow = true
  · rw [if_pos hn] at hlow
    have hlow' : b.significand - 1 / 4 ≤ y := by
      rcases hlow with h | ⟨-, h⟩ <;> linarith
    refine ⟨hy ▸ ⟨by linarith, hhigh', fun hodd => ⟨by linarith, ?_⟩⟩, fun _ => hy ▸ hlow'⟩
    rcases hhigh with h | ⟨heven, -⟩
    · linarith
    · omega
  · rw [if_neg hn] at hlow
    have hlow' : b.significand - 1 / 2 ≤ y := by
      rcases hlow with h | ⟨-, h⟩ <;> linarith
    refine ⟨hy ▸ ⟨hlow', hhigh', fun hodd => ⟨?_, ?_⟩⟩, fun h => absurd h hn⟩
    · rcases hlow with h | ⟨heven, -⟩
      · linarith
      · omega
    · rcases hhigh with h | ⟨heven, -⟩
      · linarith
      · omega

/-! ## The search -/

theorem value_exact (b : Binary) : b.exact.value = b.significand * 2 ^ b.exponent := by
  unfold exact
  split
  · next h =>
    obtain ⟨k, hk⟩ := Int.eq_ofNat_of_zero_le h
    rw [Decimal.value, hk]
    push_cast [Nat.pow_eq]
    simp
  · next h =>
    obtain ⟨k, hk⟩ : ∃ k : ℕ, b.exponent = -(k : ℤ) := ⟨(-b.exponent).toNat, by omega⟩
    have h10 : (10 : ℚ) ^ k = 5 ^ k * 2 ^ k := by
      rw [← mul_pow]
      norm_num
    rw [Decimal.value, hk]
    push_cast [Nat.pow_eq]
    simp only [neg_neg, Int.toNat_natCast, zpow_neg, zpow_natCast, h10]
    field_simp

/-- The number itself is in its interval. -/
theorem admits_exact (b : Binary) : b.Admits b.exact.value := by
  have he : (2 : ℚ) ^ b.exponent ≠ 0 := zpow_ne_zero _ (by norm_num)
  have hy : b.exact.value / 2 ^ b.exponent = b.significand := by
    rw [value_exact, mul_div_cancel_right₀ _ he]
  refine ⟨⟨?_, ?_, fun _ => ⟨?_, ?_⟩⟩, fun _ => ?_⟩
  all_goals
    rw [hy]
    linarith

/-- Of two decimals one is chosen. -/
theorem nearer_eq (tie : Tie) (b : Binary) (n : ℕ) (place : ℤ) :
    nearer tie b n place = ⟨n, place⟩ ∨ nearer tie b n place = ⟨n + 1, place⟩ := by
  unfold nearer
  split
  · exact .inl rfl
  · exact .inr rfl
  · split
    · exact .inl rfl
    · exact .inr rfl

/-- What the search finds on a grid is in the interval. -/
theorem admits_of_candidate? {tie : Tie} {b : Binary} {place : ℤ} {d : Decimal}
    (h : b.candidate? tie place = some d) : b.admits d = true := by
  unfold candidate? at h
  dsimp only at h
  split at h
  · next h₁ h₂ =>
    cases h
    rcases nearer_eq tie b (b.below place) place with h | h
    · rw [h]
      exact h₁
    · rw [h]
      exact h₂
  · next h₁ _ =>
    cases h
    exact h₁
  · next _ h₂ =>
    cases h
    exact h₂
  · cases h

/-- The shortest decimal for a number is in the interval of the number. -/
theorem admits_shortest {b : Binary} (hb : b.significand ≠ 0) (tie : Tie) :
    b.Admits (b.shortest tie).value := by
  unfold shortest
  dsimp only
  rw [Decimal.value_stripped]
  generalize hf : List.findSome? _ _ = found
  cases found with
  | none => exact admits_exact b
  | some d =>
    obtain ⟨n, -, hn⟩ := List.exists_of_findSome?_eq_some hf
    exact admits_value hb (admits_of_candidate? hn)

/-- No decimal in the interval of a number other than zero is zero. -/
theorem Admits.pos {b : Binary} {x : ℚ} (hb : b.significand ≠ 0) (h : b.Admits x) : 0 < x := by
  have he : (0 : ℚ) < 2 ^ b.exponent := zpow_pos (by norm_num) _
  have hone : (1 : ℚ) ≤ b.significand := by exact_mod_cast Nat.pos_of_ne_zero hb
  have hy : 0 < x / 2 ^ b.exponent := by
    have := h.rounds.low
    linarith
  exact (div_pos_iff_of_pos_right he).mp hy

end Binary

end JsonPath.Number
