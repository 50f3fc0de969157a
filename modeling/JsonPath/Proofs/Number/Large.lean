import JsonPath.Proofs.Number.Bits
import JsonPath.Proofs.Number.Order

/-!
# Natural numbers that are no integers of 64 bits

From `2 ^ 63` on, floating-point numbers are multiples of 2048, and up to `2 ^ 64` all these
multiples are floating-point numbers. So a natural number in between is nearest to the multiple of
2048 that it rounds to (`ofNatural_isNearest`). Rounding keeps it on the same side of every
floating-point number, except that it may come to lie on it (`le_rounded`, `rounded_le`).
-/

namespace JsonPath.Number

/-- The multiple of 2048 that a natural number rounds to. -/
def rounded (n : ℕ) : ℕ := 2048 * roundQuotient n 2048

/-- Rounding goes to the nearest multiple, and to the even one of two. -/
theorem rounded_spec (n : ℕ) : rounded n ≤ n + 1024 ∧ n ≤ rounded n + 1024 ∧
    (rounded n = n + 1024 ∨ n = rounded n + 1024 → roundQuotient n 2048 % 2 = 0) := by
  unfold rounded roundQuotient
  dsimp only
  rcases lt_trichotomy (2 * (n % 2048)) 2048 with h | h | h
  · rw [Nat.compare_eq_lt.mpr h]
    dsimp only
    omega
  · rw [Nat.compare_eq_eq.mpr h]
    dsimp only
    split <;> omega
  · rw [Nat.compare_eq_gt.mpr h]
    dsimp only
    omega

/-- No multiple is nearer, and another one is as near only if the one that is rounded to is even. -/
theorem abs_sub_rounded_le (n k : ℕ) : |(n : ℚ) - rounded n| ≤ |(n : ℚ) - (2048 * k : ℕ)| ∧
    (|(n : ℚ) - rounded n| = |(n : ℚ) - (2048 * k : ℕ)| → 2048 * k ≠ rounded n →
      roundQuotient n 2048 % 2 = 0) := by
  have hspec := rounded_spec n
  have hint : |(n : ℤ) - rounded n| ≤ |(n : ℤ) - (2048 * k : ℕ)| ∧
      (|(n : ℤ) - rounded n| = |(n : ℤ) - (2048 * k : ℕ)| → 2048 * k ≠ rounded n →
        roundQuotient n 2048 % 2 = 0) := by
    rw [Int.abs_eq_natAbs, Int.abs_eq_natAbs]
    unfold rounded at hspec ⊢
    omega
  exact_mod_cast hint

/-- Rounding keeps the order of a number and a multiple of 2048. -/
theorem le_rounded_mul {n k : ℕ} (h : 2048 * k ≤ n) : 2048 * k ≤ rounded n := by
  have hspec := rounded_spec n
  unfold rounded at hspec ⊢
  omega

theorem rounded_le_mul {n k : ℕ} (h : n ≤ 2048 * k) : rounded n ≤ 2048 * k := by
  have hspec := rounded_spec n
  unfold rounded at hspec ⊢
  omega

theorem rounded_mono {m n : ℕ} (h : m ≤ n) : rounded m ≤ rounded n := by
  have hm := rounded_spec m
  have hn := rounded_spec n
  have hlt : m < n ∨ m = n := Nat.lt_or_eq_of_le h
  rcases hlt with hlt | rfl
  · unfold rounded at hm hn ⊢
    omega
  · exact Nat.le_refl _

section Range

variable {n : ℕ} (hlow : 2 ^ 63 ≤ n) (hhigh : n < 2 ^ 64)
include hlow hhigh

theorem nearestBits_of_large : nearestBits n 1 = 1085 * 2 ^ 52 + roundQuotient n 2048 := by
  have hne : n ≠ 0 := by omega
  have hlog : n.log2 = 63 := (Nat.log2_eq_iff hne).mpr ⟨hlow, hhigh⟩
  have hplace : leadingPlace n 1 = 63 := by
    unfold leadingPlace
    rw [hlog, show Nat.log2 1 = 0 from rfl]
    exact if_pos (by simpa using hlow)
  rw [nearestBits, if_neg hne, hplace]
  simp

/-- The number as a floating-point number. -/
theorem denote_ofNatural : ∃ b : Binary, denote (ofNatural false n) = .finite b ∧
    b.value = rounded n ∧ (roundQuotient n 2048 % 2 = 0 → b.significand % 2 = 0) := by
  have hq : 2 ^ 52 ≤ roundQuotient n 2048 ∧ roundQuotient n 2048 ≤ 2 ^ 53 := by
    have hl := le_rounded_mul (k := 2 ^ 52) hlow
    have hr := rounded_le_mul (k := 2 ^ 53) hhigh.le
    unfold rounded at hl hr
    omega
  have hbits := nearestBits_of_large hlow hhigh
  unfold rounded
  generalize roundQuotient n 2048 = q at hq hbits
  have hn : (UInt64.ofNat (1085 * 2 ^ 52 + q)).toNat = 1085 * 2 ^ 52 + q :=
    UInt64.toNat_ofNat_of_lt' (by rw [UInt64.size]; omega)
  have hx : denote (ofNatural false n) = denoteBits (1085 * 2 ^ 52 + q) := by
    rw [ofNatural, hbits, ofSignBits, if_neg Bool.false_ne_true, denote, toBits_ofBits, hn]
    rw [hn]
    omega
  have hsign : (1085 * 2 ^ 52 + q) / 2 ^ 63 % 2 = 0 := by omega
  rw [hx, denoteBits]
  simp only [Nat.pow_eq]
  rw [if_neg (by omega), if_neg (by omega), hsign]
  refine ⟨_, rfl, ?_, ?_⟩
  -- Rounded up to the next power of two, the number has a larger exponent.
  · rcases Nat.lt_or_eq_of_le hq.2 with hlt | rfl
    · have hexponent : (1085 * 2 ^ 52 + q) / 2 ^ 52 % 2 ^ 11 = 1086 := by omega
      have hsignificand : 2 ^ 52 + (1085 * 2 ^ 52 + q) % 2 ^ 52 = q := by omega
      rw [hexponent, hsignificand, Binary.value, Binary.signed]
      norm_num
      ring
    · norm_num [Binary.value, Binary.signed]
  · dsimp only
    omega

end Range

/-! ## Beside floating-point numbers -/

section Floats

variable {x : Float} {b : Binary} (hx : denote x = .finite b)
include hx

/-- From `2 ^ 63` on, floating-point numbers are multiples of 2048. -/
theorem exists_eq_mul (h : 2 ^ 63 ≤ b.value) : ∃ k : ℕ, b.value = (2048 * k : ℕ) := by
  obtain ⟨⟨-, hlt, -⟩, -⟩ := significand_of_denote hx
  have hlt : (b.significand : ℚ) < 2 ^ 53 := by exact_mod_cast hlt
  have hpos : b.value ≤ b.significand * 2 ^ b.exponent := by
    rw [Binary.value, Binary.signed]
    gcongr
    split
    · push_cast
      linarith [Nat.cast_nonneg (α := ℚ) b.significand]
    · rfl
  have hsigned : b.signed = b.significand := by
    rw [Binary.signed]
    refine if_neg fun hneg => ?_
    have hvalue : b.value = -(b.significand * 2 ^ b.exponent) := by
      rw [Binary.value, Binary.signed, if_pos hneg]
      push_cast
      ring
    have hnonneg : (0 : ℚ) ≤ b.significand * 2 ^ b.exponent := by positivity
    linarith
  -- the significand has 53 bits at most, so the exponent does not come below 11
  have hexponent : 11 ≤ b.exponent := by
    by_contra hlow
    have hle : (2 : ℚ) ^ b.exponent ≤ 2 ^ (10 : ℤ) := zpow_le_zpow_right₀ (by norm_num) (by omega)
    have hprod : b.significand * (2 : ℚ) ^ b.exponent < 2 ^ 53 * 2 ^ (10 : ℤ) :=
      mul_lt_mul hlt hle (by positivity) (by norm_num)
    norm_num at hprod h
    linarith
  refine ⟨b.significand * 2 ^ (b.exponent - 11).toNat, ?_⟩
  rw [b.value_eq_mul hexponent, hsigned]
  push_cast
  ring

section

variable {n : ℕ} (hlow : 2 ^ 63 ≤ n)
include hlow

theorem le_rounded (h : b.value ≤ n) : b.value ≤ rounded n := by
  rcases lt_or_ge b.value (2 ^ 63) with hsmall | hlarge
  · have hbound : 2 ^ 63 ≤ rounded n := le_rounded_mul (k := 2 ^ 52) hlow
    have hbound : (2 : ℚ) ^ 63 ≤ rounded n := by exact_mod_cast hbound
    linarith
  · obtain ⟨k, hk⟩ := exists_eq_mul hx hlarge
    rw [hk] at h ⊢
    exact_mod_cast le_rounded_mul (by exact_mod_cast h)

theorem rounded_le (h : n ≤ b.value) : rounded n ≤ b.value := by
  have hbound : (2 : ℚ) ^ 63 ≤ n := by exact_mod_cast hlow
  obtain ⟨k, hk⟩ := exists_eq_mul hx (hbound.trans h)
  rw [hk] at h ⊢
  exact_mod_cast rounded_le_mul (by exact_mod_cast h)

/-- There is a multiple of 2048 between the two numbers, or one of them is. -/
theorem exists_mul_between :
    ∃ k : ℕ, |(n : ℚ) - b.value| = |(n : ℚ) - (2048 * k : ℕ)| + |(2048 * k : ℕ) - b.value| := by
  have hbound : (2 : ℚ) ^ 63 ≤ n := by exact_mod_cast hlow
  rcases lt_or_ge b.value (2 ^ 63) with hsmall | hlarge
  · refine ⟨2 ^ 52, ?_⟩
    have hcast : ((2048 * 2 ^ 52 : ℕ) : ℚ) = 2 ^ 63 := by norm_num
    rw [hcast, abs_of_pos (by linarith), abs_of_nonneg (by linarith), abs_of_pos (by linarith)]
    ring
  · obtain ⟨k, hk⟩ := exists_eq_mul hx hlarge
    exact ⟨k, by rw [hk, sub_self, abs_zero, add_zero]⟩

end

end Floats

/-- The binary number is the nearest to a number among all finite floating-point numbers. If another
one is as near, its significand is even. -/
structure Binary.IsNearest (b : Binary) (x : ℚ) : Prop where
  nearest : ∀ y c, denote y = .finite c → |x - b.value| ≤ |x - c.value|
  even : ∀ y c, denote y = .finite c → |x - b.value| = |x - c.value| → c.value ≠ b.value →
    b.significand % 2 = 0

/-- A natural number that is no integer of 64 bits is rounded to the nearest floating-point
number. -/
theorem ofNatural_isNearest {n : ℕ} (hlow : 2 ^ 63 ≤ n) (hhigh : n < 2 ^ 64) :
    ∃ b : Binary, denote (ofNatural false n) = .finite b ∧ b.value = rounded n ∧
      b.IsNearest n := by
  obtain ⟨b, hb, hvalue, heven⟩ := denote_ofNatural hlow hhigh
  refine ⟨b, hb, hvalue, ⟨fun y c hc => ?_, fun y c hc heq hne => ?_⟩⟩
  · obtain ⟨k, hk⟩ := exists_mul_between hc hlow
    have hround := (abs_sub_rounded_le n k).1
    have hbetween := abs_nonneg ((2048 * k : ℕ) - c.value)
    rw [hvalue]
    linarith
  · obtain ⟨k, hk⟩ := exists_mul_between hc hlow
    obtain ⟨hround, heven'⟩ := abs_sub_rounded_le n k
    have hbetween := abs_nonneg ((2048 * k : ℕ) - c.value)
    rw [hvalue] at heq hne
    -- the other number is the multiple itself
    have hmul : ((2048 * k : ℕ) : ℚ) = c.value :=
      sub_eq_zero.mp (abs_eq_zero.mp (by linarith))
    refine heven (heven' (by linarith) fun hk => hne ?_)
    rw [← hmul, hk]

end JsonPath.Number
