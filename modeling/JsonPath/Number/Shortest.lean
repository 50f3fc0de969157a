import JsonPath.Number.Binary

/-!
# The shortest decimal for a floating-point number

A floating-point number stands for all real numbers that are rounded to it: those up to halfway to
its two neighbours, the halfway points among them if its significand is even. Of the decimals in
that interval the shortest is written, and of several equally short ones the nearest to the number
itself. Everything is decided by comparing natural numbers.

The decimals with a given last place form a grid. If a point of the grid lies in the interval, then
so does one of the two grid points next to the number, so the search goes through ever finer grids
and asks those two (`shortest`).
-/

namespace JsonPath.Number

/-- The number `digits * 10 ^ exponent`. -/
structure Decimal where
  digits : Nat
  exponent : Int
deriving Repr, DecidableEq

/-- Which of two equally near decimals is written. -/
inductive Tie where
  /-- the one with an even last digit -/
  | toEven
  /-- the greater one -/
  | up
deriving Repr, DecidableEq

namespace Decimal

/-- The order of a decimal and a binary number `significand * 2 ^ exponent`. -/
def orderBinary (d : Decimal) (significand : Nat) (exponent : Int) : Ordering :=
  compare (d.digits * Nat.pow 10 d.exponent.toNat * Nat.pow 2 (-exponent).toNat)
    (significand * Nat.pow 2 exponent.toNat * Nat.pow 10 (-d.exponent).toNat)

/-- The same number without zeros at the end of its digits. -/
def stripped (d : Decimal) : Decimal :=
  if _h : d.digits ≠ 0 ∧ d.digits % 10 = 0 then stripped ⟨d.digits / 10, d.exponent + 1⟩ else d
termination_by d.digits
decreasing_by exact Nat.div_lt_self (by omega) (by decide)

end Decimal

namespace Binary

/-- Whether the neighbour below is nearer than the one above: so it is at a power of two, except at
the least exponent. -/
def narrowBelow (b : Binary) : Bool := b.significand == Nat.pow 2 52 && -1074 < b.exponent

/-- Whether a decimal is rounded to the number. The ends of the interval are written in quarters of
the unit in the last place. -/
def admits (b : Binary) (d : Decimal) : Bool :=
  let low := 4 * b.significand - (if b.narrowBelow then 1 else 2)
  let high := 4 * b.significand + 2
  let closed := b.significand % 2 == 0
  let atLow := d.orderBinary low (b.exponent - 2)
  let atHigh := d.orderBinary high (b.exponent - 2)
  (atLow == .gt || closed && atLow == .eq) && (atHigh == .lt || closed && atHigh == .eq)

/-- The greatest multiple of `10 ^ place` that does not exceed the number, in that unit. -/
def below (b : Binary) (place : Int) : Nat :=
  (b.significand * Nat.pow 2 b.exponent.toNat * Nat.pow 10 (-place).toNat)
    / (Nat.pow 2 (-b.exponent).toNat * Nat.pow 10 place.toNat)

/-- Of the multiples `n` and `n + 1` of `10 ^ place` around the number, the nearer one. -/
def nearer (tie : Tie) (b : Binary) (n : Nat) (place : Int) : Decimal :=
  match Decimal.orderBinary ⟨2 * n + 1, place⟩ (2 * b.significand) b.exponent with
  | .gt => ⟨n, place⟩
  | .lt => ⟨n + 1, place⟩
  | .eq => if tie = .toEven ∧ n % 2 = 0 then ⟨n, place⟩ else ⟨n + 1, place⟩

/-- A decimal with a given last place that is rounded to the number, if there is one. -/
def candidate? (tie : Tie) (b : Binary) (place : Int) : Option Decimal :=
  let n := b.below place
  match b.admits ⟨n, place⟩, b.admits ⟨n + 1, place⟩ with
  | true, true => some (nearer tie b n place)
  | true, false => some ⟨n, place⟩
  | false, true => some ⟨n + 1, place⟩
  | false, false => none

/-- The least power of ten above the number. It is guessed from the leading binary digit and put
right by comparing. -/
def magnitude (b : Binary) : Int :=
  let guess := ((b.significand.log2 + b.exponent) * 30103).fdiv 100000
  let above := fun k : Int => Decimal.orderBinary ⟨1, k⟩ b.significand b.exponent == .gt
  ([guess, guess + 1].find? above).getD (guess + 2)

/-- The decimal that denotes the number itself. -/
def exact (b : Binary) : Decimal :=
  if 0 ≤ b.exponent then ⟨b.significand * Nat.pow 2 b.exponent.toNat, 0⟩
  else ⟨b.significand * Nat.pow 5 (-b.exponent).toNat, b.exponent⟩

/-- The shortest decimal that is rounded to a number other than zero. Seventeen digits are enough,
so the last resort is never needed. -/
def shortest (tie : Tie) (b : Binary) : Decimal :=
  let k := b.magnitude
  let found := (List.range 17).findSome? fun n : Nat => b.candidate? tie (k - 1 - n)
  (found.getD b.exact).stripped

end Binary

end JsonPath.Number
