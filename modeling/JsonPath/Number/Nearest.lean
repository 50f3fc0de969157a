import JsonPath.Number.Binary
import JsonPath.Text.Numeral

/-!
# The floating-point number nearest to a given one

A decimal number is read as the floating-point number nearest to it; of two that are equally near,
the one with an even significand. The computation is in natural numbers: the quotient is written
with fifty-three binary digits, or fewer near zero, and rounded there.

Non-negative floating-point numbers are numbered by their bits in ascending order. A significand
that rounds up to the next power of two therefore needs no attention: the carry leads to the next
exponent, and from the last one to infinity.
-/

namespace JsonPath.Number

/-- The quotient rounded to the nearest integer, to the even one of two. -/
def roundQuotient (num den : Nat) : Nat :=
  let q := num / den
  match compare (2 * (num % den)) den with
  | .lt => q
  | .gt => q + 1
  | .eq => if q % 2 = 0 then q else q + 1

/-- The place of the leading binary digit of a positive quotient: the greatest power of two that
does not exceed it. -/
def leadingPlace (num den : Nat) : Int :=
  let k : Int := (num.log2 : Int) - den.log2
  if den * Nat.pow 2 k.toNat ≤ num * Nat.pow 2 (-k).toNat then k else k - 1

/-- The bits of infinity. -/
def infinityBits : Nat := 2047 * Nat.pow 2 52

/-- The bits of the number nearest to a quotient, without regard to the greatest exponent. -/
def nearestBits (num den : Nat) : Nat :=
  if num = 0 then 0
  else
    let place := max (leadingPlace num den - 52) (-1074)
    (place + 1074).toNat * Nat.pow 2 52
      + roundQuotient (num * Nat.pow 2 (-place).toNat) (den * Nat.pow 2 place.toNat)

/-- The floating-point number with a given sign and given bits apart from it. -/
def ofSignBits (negative : Bool) (bits : Nat) : Float :=
  .ofBits (.ofNat (if negative then Nat.pow 2 63 + bits else bits))

/-- The floating-point number nearest to `significand * 10 ^ exponent`, or to its opposite, unless
it is infinite. Exponents far outside the range are settled by the number of digits. -/
def ofDecimal? (negative : Bool) (significand : Nat) (exponent : Int) : Option Float :=
  if significand = 0 then some (ofSignBits negative 0)
  else
    let place := exponent + (Text.digits 10 significand).length
    if place < -400 then some (ofSignBits negative 0)
    else if 400 < place then none
    else
      let bits :=
        nearestBits (significand * Nat.pow 10 exponent.toNat) (Nat.pow 10 (-exponent).toNat)
      if bits < infinityBits then some (ofSignBits negative bits) else none

/-- The floating-point number nearest to a natural number below `2 ^ 64`, or to its opposite. -/
def ofNatural (negative : Bool) (n : Nat) : Float := ofSignBits negative (nearestBits n 1)

end JsonPath.Number
