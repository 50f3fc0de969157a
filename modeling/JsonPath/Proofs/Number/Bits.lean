import Mathlib
import JsonPath.Proofs.Number.Rounding

/-!
# Floating-point numbers and their bits

A finite number is its bits and nothing else. What a finite number denotes therefore determines it
(`ofSignBits_of_denote`), and any bits below those of infinity belong to a finite number
(`isFinite_ofSignBits`). What the bits denote is what the number is unpacked to
(`denote_eq_ofUnpacked`).

That packing undoes unpacking is `pack_unpack`, which no part of Mathlib brings along
but the whole.
-/

namespace JsonPath.Number

open Float.Model Float.Model.UnpackedFloat

/-- Bits are kept, unless their exponent is the one of infinite and undefined numbers. -/
theorem toBits_ofBits {n : UInt64} (h : n.toNat / 2 ^ 52 % 2 ^ 11 ≠ 2047) :
    (Float.ofBits n).toBits = n := by
  have hnan : @isNaNBits .binary64 n.toBitVec = false := by
    refine decide_eq_false fun he => h ?_
    have hv : (BitVec.extractLsb 62 52 n.toBitVec).toNat = 2047 := congrArg BitVec.toNat he.1
    rwa [BitVec.extractLsb_toNat, Nat.shiftRight_eq_div_pow] at hv
  have hpack : (unpack .binary64 n.toBitVec).pack .binary64 = n.toBitVec := by
    rw [pack_unpack, hnan]
    rfl
  exact congrArg UInt64.ofBitVec hpack

/-- The bits of a binary number without its sign. -/
def bitsOf (b : Binary) : Nat := (b.exponent + 1074).toNat * 2 ^ 52 + b.significand

/-- The fields that are read off from bits, and the bits that they are put together to. -/
theorem denoteBits_eq_finite {n : Nat} {b : Binary} (hn : n < 2 ^ 64)
    (h : denoteBits n = .finite b) :
    IsSignificand b.significand b.exponent ∧ b.exponent ≤ 971 ∧ n / 2 ^ 52 % 2 ^ 11 ≠ 2047 ∧
      (if b.negative then 2 ^ 63 + bitsOf b else bitsOf b) = n := by
  have hfraction : n % 2 ^ 52 < 2 ^ 52 := Nat.mod_lt _ (by decide)
  unfold denoteBits at h
  simp only [Nat.pow_eq] at h
  split at h
  · split at h <;> cases h
  · next hmax =>
    split at h
    · next hzero =>
      cases h
      simp only [bitsOf, beq_iff_eq]
      refine ⟨⟨by decide, by omega, fun h => absurd h (by decide)⟩, by decide, hmax, ?_⟩
      rw [show ((-1074 : Int) + 1074).toNat = 0 from rfl]
      split <;> omega
    · next hzero =>
      cases h
      simp only [bitsOf, beq_iff_eq]
      refine ⟨⟨by omega, by omega, fun _ => Nat.le_add_right _ _⟩, by omega, hmax, ?_⟩
      split <;> omega

/-- What a finite number denotes is a significand with an exponent that is not too great. -/
theorem significand_of_denote {x : Float} {b : Binary} (h : denote x = .finite b) :
    IsSignificand b.significand b.exponent ∧ b.exponent ≤ 971 := by
  obtain ⟨hs, he, -, -⟩ := denoteBits_eq_finite x.toBits.toNat_lt h
  exact ⟨hs, he⟩

/-- A finite number is determined by what it denotes. -/
theorem ofSignBits_of_denote {x : Float} {b : Binary} (h : denote x = .finite b) :
    ofSignBits b.negative (bitsOf b) = x := by
  obtain ⟨-, -, -, hn⟩ := denoteBits_eq_finite x.toBits.toNat_lt h
  rw [ofSignBits, Nat.pow_eq, hn, UInt64.ofNat_toNat, Float.ofBits_toBits]

/-- Zero is written with the least exponent. -/
theorem exponent_of_denote {x : Float} {b : Binary} (h : denote x = .finite b)
    (hb : b.significand = 0) : b.exponent = -1074 := by
  obtain ⟨⟨hlow, -, hlead⟩, -⟩ := significand_of_denote h
  by_contra hne
  have hle := hlead (by omega)
  omega

/-- Bits below those of infinity belong to a finite number. -/
theorem isFinite_ofSignBits {bits : Nat} (h : bits < infinityBits) (negative : Bool) :
    isFinite (ofSignBits negative bits) = true := by
  have hmax : bits < 2047 * 2 ^ 52 := h
  have hn : (UInt64.ofNat (if negative then 2 ^ 63 + bits else bits)).toNat
      = if negative then 2 ^ 63 + bits else bits := by
    refine UInt64.toNat_ofNat_of_lt' ?_
    rw [UInt64.size]
    split <;> omega
  have hexp : (if negative then 2 ^ 63 + bits else bits) / 2 ^ 52 % 2 ^ 11 ≠ 2047 := by
    split <;> omega
  have hbits : (ofSignBits negative bits).toBits.toNat
      = if negative then 2 ^ 63 + bits else bits := by
    rw [ofSignBits, Nat.pow_eq, toBits_ofBits (by rwa [hn]), hn]
  rw [isFinite, denote, hbits, denoteBits]
  simp only [Nat.pow_eq]
  rw [if_neg hexp]
  by_cases hzero : (if negative then 2 ^ 63 + bits else bits) / 2 ^ 52 % 2 ^ 11 = 0
  · rw [if_pos hzero]
  · rw [if_neg hzero]

/-! ## Unpacked numbers -/

/-- Whether a sign is the one of negative numbers. -/
def isMinus : Sign → Bool
  | .negative => true
  | .positive => false

/-- What an unpacked number denotes. Zero is written with the least exponent. -/
def Denotation.ofUnpacked : UnpackedFloat → Denotation
  | .notANumber => .undefined
  | .infinity sign => .infinite (isMinus sign)
  | .zero sign => .finite ⟨isMinus sign, 0, -1074⟩
  | .finite sign mantissa exponent _ => .finite ⟨isMinus sign, mantissa, exponent⟩

theorem isMinus_ofBitVec (sign : BitVec 1) : isMinus (.ofBitVec sign) = (sign.toNat == 1) := by
  revert sign
  decide

/-- The fields that a number is unpacked to, as parts of its bits. -/
theorem toNat_fields (x : Float) :
    (@unpackMantissa .binary64 x.toBits.toBitVec).toNat = x.toBits.toNat % 2 ^ 52 ∧
    (@unpackExponent .binary64 x.toBits.toBitVec).toNat = x.toBits.toNat / 2 ^ 52 % 2 ^ 11 ∧
    (@unpackSign .binary64 x.toBits.toBitVec).toNat = x.toBits.toNat / 2 ^ 63 % 2 := by
  simp [unpackMantissa, unpackExponent, unpackSign, Nat.shiftRight_eq_div_pow]

/-- What a number denotes is what it is unpacked to. -/
theorem denote_eq_ofUnpacked (x : Float) : denote x = .ofUnpacked x.toModel.unpack := by
  obtain ⟨hmantissa, hexponent, hsign⟩ := toNat_fields x
  have hmax (e : BitVec 11) : e = -1#11 ↔ e.toNat = 2047 := BitVec.toNat_inj.symm
  have hmin (e : BitVec 11) : e = 0#11 ↔ e.toNat = 0 := BitVec.toNat_inj.symm
  have hzero (m : BitVec 52) : m = 0#52 ↔ m.toNat = 0 := BitVec.toNat_inj.symm
  have hlead (m : BitVec 52) : (1#1 ++ m).toNat = 2 ^ 52 + m.toNat := by
    rw [BitVec.toNat_append, BitVec.toNat_ofNat, Nat.shiftLeft_eq, Nat.or_comm]
    exact (Nat.or_two_pow_eq_add_of_lt m.isLt).trans (Nat.add_comm _ _)
  change _ = Denotation.ofUnpacked (UnpackedFloat.unpack .binary64 x.toBits.toBitVec)
  simp only [denote, denoteBits, Nat.pow_eq, UnpackedFloat.unpack, hmax, hmin, hzero, hlead]
  rw [← hmantissa, ← hexponent, ← hsign, ← isMinus_ofBitVec]
  split
  · split <;> rfl
  split
  · next hexponent =>
    -- without a leading bit, and zero is written apart from the others
    split
    · next hmantissa =>
      rw [hmantissa]
      rfl
    · rw [hexponent]
      rfl
  · rfl

/-- A float denotes nothing if and only if it is not a number. -/
theorem denote_eq_undefined_iff (x : Float) : denote x = .undefined ↔ x.isNaN = true := by
  rw [denote_eq_ofUnpacked]
  change _ ↔ x.toModel.unpack.isNaN = true
  cases x.toModel.unpack <;> simp [UnpackedFloat.isNaN, Denotation.ofUnpacked]

end JsonPath.Number
