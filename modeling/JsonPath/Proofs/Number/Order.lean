import Mathlib.Algebra.Order.Field.Rat
import Mathlib.Algebra.Order.Field.Power
import Mathlib.Data.Option.NAry
import Mathlib.Order.WithBot
import Mathlib.Order.Compare
import Mathlib.Tactic.Linarith
import Mathlib.Tactic.Positivity
import JsonPath.Proofs.Number.Rounding

/-!
# The order of numbers

A binary number is a rational number, its `value`, and a floating-point number that is not undefined
is a binary number or lies at one end of the line (`Denotation.value?`). The order of binary numbers
is the order of their values (`Binary.order_eq`), and so is the order of an integer of 64 bits and a
binary number (`Binary.orderInt_eq`), although the binary number is cut off behind the point and
forced into 64 bits for it: in the range where that happens nothing is forced.
-/

namespace JsonPath.Number

/-! ## Integers -/

theorem compare_toInt (m n : Int64) : compare m n = compare m.toInt n.toInt := by
  rcases lt_trichotomy m.toInt n.toInt with h | h | h
  · rw [compare_lt_iff_lt.mpr h]
    exact Std.compare_eq_lt.mpr (Int64.lt_iff_toInt_lt.mpr h)
  · rw [compare_eq_iff_eq.mpr h, Int64.toInt.inj h]
    exact Std.ReflCmp.compare_self
  · rw [compare_gt_iff_gt.mpr h]
    exact Std.compare_eq_gt.mpr (Int64.lt_iff_toInt_lt.mpr h)

/-- Integers are compared as the rational numbers that they are. -/
theorem compare_cast (m n : ℤ) : compare m n = compare (m : ℚ) (n : ℚ) := by
  rw [← cmp_eq_compare, ← cmp_eq_compare, Int.cast_strictMono.cmp_map_eq]

namespace Binary

/-- The rational number that a binary number is. -/
def value (b : Binary) : ℚ := b.signed * 2 ^ b.exponent

/-! ## Two binary numbers -/

/-- The value in units of a power of two that is no greater than the one of the number. -/
theorem value_eq_mul {e : ℤ} (b : Binary) (h : e ≤ b.exponent) :
    b.value = (b.signed * 2 ^ (b.exponent - e).toNat : ℤ) * 2 ^ e := by
  have he : (2 : ℚ) ^ b.exponent = 2 ^ (b.exponent - e).toNat * 2 ^ e := by
    rw [← zpow_natCast, ← zpow_add₀ (by norm_num)]
    congr 1
    omega
  rw [value, he]
  push_cast
  ring

/-- The order of two binary numbers is that of their values. -/
theorem order_eq (a b : Binary) : a.order b = compare a.value b.value := by
  rw [a.value_eq_mul (min_le_left a.exponent b.exponent),
    b.value_eq_mul (min_le_right a.exponent b.exponent), ← cmp_eq_compare,
    cmp_mul_pos_right (by positivity), cmp_eq_compare, ← compare_cast]
  exact congrArg₂ compare (by norm_cast) (by norm_cast)

/-! ## An integer and a binary number -/

/-- A number without a sign, cut at the point: what is behind the point is less than one. -/
theorem cut_at_point (m : ℕ) (e : ℤ) :
    (m : ℚ) * 2 ^ e = (m * 2 ^ e.toNat / 2 ^ (-e).toNat : ℕ) + (m % 2 ^ (-e).toNat : ℕ) * 2 ^ e ∧
      (m % 2 ^ (-e).toNat : ℕ) * (2 : ℚ) ^ e < 1 := by
  rcases le_total 0 e with h | h
  · obtain ⟨k, rfl⟩ := Int.eq_ofNat_of_zero_le h
    rw [Int.toNat_neg_natCast, Int.toNat_natCast, pow_zero, Nat.mod_one, Nat.div_one]
    simp
  · obtain ⟨k, rfl⟩ := Int.exists_eq_neg_ofNat h
    have hpos : (0 : ℚ) < 2 ^ k := by positivity
    have hdiv : (m : ℚ) = 2 ^ k * (m / 2 ^ k : ℕ) + (m % 2 ^ k : ℕ) := by
      exact_mod_cast (Nat.div_add_mod m (2 ^ k)).symm
    have hlt : ((m % 2 ^ k : ℕ) : ℚ) < 2 ^ k := by
      exact_mod_cast Nat.mod_lt m (Nat.two_pow_pos k)
    rw [neg_neg, Int.toNat_neg_natCast, Int.toNat_natCast, pow_zero, mul_one, zpow_neg,
      zpow_natCast, ← div_eq_mul_inv, ← div_eq_mul_inv, div_lt_one hpos]
    refine ⟨?_, hlt⟩
    rw [div_eq_iff hpos.ne', add_mul, div_mul_cancel₀ _ hpos.ne', mul_comm, ← hdiv]

/-- A number is what it has before the point and what it has behind it, both with its sign. -/
theorem exists_parts (b : Binary) : ∃ (w : ℕ) (r : ℚ), 0 ≤ r ∧ r < 1 ∧
    ((b.whole = w ∧ b.fraction.value = r ∧ b.value = w + r) ∨
      (b.whole = -w ∧ b.fraction.value = -r ∧ b.value = -(w + r))) := by
  obtain ⟨hcut, hlt⟩ := cut_at_point b.significand b.exponent
  refine ⟨b.significand * 2 ^ b.exponent.toNat / 2 ^ (-b.exponent).toNat,
    (b.significand % 2 ^ (-b.exponent).toNat : ℕ) * 2 ^ b.exponent, by positivity, hlt, ?_⟩
  cases hs : b.negative with
  | false =>
    refine .inl ⟨?_, ?_, ?_⟩
    · rw [whole, hs]
      rfl
    · rw [value, signed, fraction, hs]
      rfl
    · rw [value, signed, hs, ← hcut]
      rfl
  | true =>
    refine .inr ⟨?_, ?_, ?_⟩
    · rw [whole, hs]
      rfl
    · rw [value, signed, fraction, hs]
      exact (congrArg (· * _) (Int.cast_neg _)).trans (neg_mul _ _)
    · rw [value, signed, hs, ← hcut]
      exact (congrArg (· * _) (Int.cast_neg _)).trans (neg_mul _ _)

theorem value_zero : zero.value = 0 := by
  rw [value]
  exact zero_mul _

/-- The bound of integers of 64 bits as a binary number. -/
theorem value_wordBound : wordBound.value = 2 ^ 63 := by
  rw [value]
  exact one_mul _

/-- The opposite of a number has the opposite value. -/
theorem value_opposite (b : Binary) : b.opposite.value = -b.value := by
  rw [value, value, signed, signed, opposite]
  cases b.negative <;> simp

/-- A number in the range of 64 bits is cut off to an integer of 64 bits. -/
theorem toInt_word {b : Binary} (hlow : -2 ^ 63 ≤ b.value) (hhigh : b.value < 2 ^ 63) :
    b.word.toInt = b.whole := by
  have hrange : -2 ^ 63 ≤ b.whole ∧ b.whole < 2 ^ 63 := by
    obtain ⟨w, r, h0, -, ⟨hw, -, hv⟩ | ⟨hw, -, hv⟩⟩ := b.exists_parts
    · have hmax : (w : ℚ) < 2 ^ 63 := by linarith
      have hmax : w < 2 ^ 63 := by exact_mod_cast hmax
      omega
    · have hmin : (w : ℚ) ≤ 2 ^ 63 := by linarith
      have hmin : w ≤ 2 ^ 63 := by exact_mod_cast hmin
      omega
  exact Int64.toInt_ofIntClamp hrange.1 (Int.le_sub_one_of_lt hrange.2)

/-- The order of an integer and a binary number is decided before the point, or else behind it. -/
theorem compare_value (n : ℤ) (b : Binary) :
    compare (n : ℚ) b.value = (compare n b.whole).then (compare 0 b.fraction.value) := by
  have hparts : b.value = b.whole + b.fraction.value ∧ |b.fraction.value| < 1 := by
    obtain ⟨w, r, h0, h1, ⟨hw, hr, hv⟩ | ⟨hw, hr, hv⟩⟩ := b.exists_parts
    · rw [hw, hr, hv, abs_of_nonneg h0]
      exact ⟨by push_cast; ring, h1⟩
    · rw [hw, hr, hv, abs_neg, abs_of_nonneg h0]
      exact ⟨by push_cast; ring, h1⟩
  obtain ⟨hvalue, hfraction⟩ := hparts
  obtain ⟨hlow, hhigh⟩ := abs_lt.mp hfraction
  rcases lt_trichotomy n b.whole with h | h | h
  · have hle : (n : ℚ) + 1 ≤ b.whole := by exact_mod_cast h
    have hlt : compare (n : ℚ) b.value = .lt := compare_lt_iff_lt.mpr (by linarith)
    rw [compare_lt_iff_lt.mpr h, hlt]
    rfl
  · rw [compare_eq_iff_eq.mpr h, Ordering.then, hvalue, h, ← cmp_eq_compare, ← cmp_eq_compare]
    nth_rewrite 1 [← add_zero (b.whole : ℚ)]
    exact (add_right_strictMono (a := (b.whole : ℚ))).cmp_map_eq _ _
  · have hle : (b.whole : ℚ) + 1 ≤ n := by exact_mod_cast h
    have hgt : compare (n : ℚ) b.value = .gt := compare_gt_iff_gt.mpr (by linarith)
    rw [compare_gt_iff_gt.mpr h, hgt]
    rfl

/-- The order of an integer of 64 bits and a binary number is the order of rational numbers. -/
theorem orderInt_eq (n : Int64) (b : Binary) : b.orderInt n = compare (n.toInt : ℚ) b.value := by
  have hmin : (-2 ^ 63 : ℚ) ≤ n.toInt := by exact_mod_cast n.minValue_le_toInt
  have hmax : (n.toInt : ℚ) ≤ 2 ^ 63 - 1 := by exact_mod_cast n.toInt_le
  rw [orderInt, order_eq, order_eq, value_opposite, value_wordBound]
  rcases le_or_gt (2 ^ 63) b.value with hhigh | hhigh
  · -- above all integers of 64 bits
    have hne : compare b.value (2 ^ 63) ≠ .lt := fun h => hhigh.not_gt (compare_lt_iff_lt.mp h)
    rw [if_pos (bne_iff_ne.mpr hne), eq_comm, compare_lt_iff_lt]
    linarith
  rw [compare_lt_iff_lt.mpr hhigh, if_neg (by decide)]
  rcases lt_or_ge b.value (-2 ^ 63) with hlow | hlow
  · -- below all of them
    rw [compare_lt_iff_lt.mpr hlow, if_pos (by decide), eq_comm, compare_gt_iff_gt]
    linarith
  have hge : compare b.value (-2 ^ 63) ≠ .lt := fun h => hlow.not_gt (compare_lt_iff_lt.mp h)
  rw [if_neg (beq_iff_eq.not.mpr hge), compare_toInt, toInt_word hlow hhigh, order_eq, value_zero,
    compare_value]

end Binary

/-! ## Floating-point numbers -/

/-- The rational numbers, with a least and a greatest number added. -/
abbrev ExtendedRat := WithBot (WithTop ℚ)

/-- A rational number, as one that is not at an end. -/
def ExtendedRat.ofRat (x : ℚ) : ExtendedRat := ((x : WithTop ℚ) : WithBot (WithTop ℚ))

/-- The number that is denoted, if one is. -/
def Denotation.value? : Denotation → Option ExtendedRat
  | .undefined => none
  | .infinite true => some ⊥
  | .infinite false => some ⊤
  | .finite b => some (.ofRat b.value)

/-- Only what is undefined has no value. -/
theorem Denotation.value?_eq_none_iff (d : Denotation) : d.value? = none ↔ d = .undefined := by
  match d with
  | .undefined => simp [value?]
  | .infinite true => simp [value?]
  | .infinite false => simp [value?]
  | .finite b => simp [value?]

/-- Rational numbers keep their order among the extended ones. -/
theorem compare_ofRat (x y : ℚ) : compare (ExtendedRat.ofRat x) (.ofRat y) = compare x y := by
  have hmono : StrictMono ExtendedRat.ofRat := WithBot.coe_strictMono.comp WithTop.coe_strictMono
  rw [← cmp_eq_compare, hmono.cmp_map_eq, cmp_eq_compare]

/-- Floats have the order of what they denote. -/
theorem orderFloats_eq (x y : Float) :
    orderFloats x y = Option.map₂ compare (denote x).value? (denote y).value? := by
  rw [orderFloats]
  match denote x, denote y with
  | .undefined, _ => rfl
  | .infinite true, .undefined => rfl
  | .infinite false, .undefined => rfl
  | .finite _, .undefined => rfl
  | .infinite true, .infinite true => rfl
  | .infinite true, .infinite false => rfl
  | .infinite false, .infinite true => rfl
  | .infinite false, .infinite false => rfl
  | .infinite true, .finite b => rfl
  | .infinite false, .finite b => rfl
  | .finite a, .infinite true => rfl
  | .finite a, .infinite false => rfl
  | .finite a, .finite b => exact congrArg some ((a.order_eq b).trans (compare_ofRat _ _).symm)

/-- An integer and a float have the order of the integer and what the float denotes. -/
theorem orderIntFloat_eq (n : Int64) (x : Float) :
    orderIntFloat n x =
      Option.map₂ compare (some (ExtendedRat.ofRat n.toInt)) (denote x).value? := by
  rw [orderIntFloat]
  match denote x with
  | .undefined => rfl
  | .infinite true => rfl
  | .infinite false => rfl
  | .finite b => exact congrArg some ((b.orderInt_eq n).trans (compare_ofRat _ _).symm)

end JsonPath.Number
