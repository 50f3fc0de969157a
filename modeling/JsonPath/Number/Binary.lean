/-!
# The values of floating-point numbers

A floating-point number is undefined, infinite, or denotes a binary number: an integer times a
power of two. `denote` reads that off its bits. Numbers are compared by what they denote, exactly,
also an integer with a floating-point number: an undefined number compares with nothing.
-/

namespace JsonPath.Number

/-! ## Binary numbers -/

/-- The number `significand * 2 ^ exponent`, or its opposite. -/
structure Binary where
  negative : Bool
  significand : Nat
  exponent : Int
deriving Repr, DecidableEq

namespace Binary

/-- The significand with the sign of the number. -/
def signed (b : Binary) : Int := if b.negative then -(b.significand : Int) else b.significand

/-- The number with the other sign. -/
def opposite (b : Binary) : Binary := { b with negative := !b.negative }

/-- The order of two binary numbers. Both are written with the smaller of the two exponents. -/
def order (a b : Binary) : Ordering :=
  let e := min a.exponent b.exponent
  compare (a.signed * Nat.pow 2 (a.exponent - e).toNat)
    (b.signed * Nat.pow 2 (b.exponent - e).toNat)

/-! ### Whole numbers and fractions -/

/-- The number without its fraction: the nearest integer on the side of zero. -/
def whole (b : Binary) : Int :=
  let n := b.significand * Nat.pow 2 b.exponent.toNat / Nat.pow 2 (-b.exponent).toNat
  if b.negative then -(n : Int) else n

/-- The number without its fraction in 64 bits: the nearest integer of 64 bits, if it needs more. -/
def word (b : Binary) : Int64 := .ofIntClamp b.whole

/-- What the number has behind the point, with its sign. -/
def fraction (b : Binary) : Binary :=
  { b with significand := b.significand % Nat.pow 2 (-b.exponent).toNat }

/-- Zero, without a sign. -/
def zero : Binary := ⟨false, 0, 0⟩

/-- The least number above all integers of 64 bits. Its opposite is the least of these. -/
def wordBound : Binary := ⟨false, 1, 63⟩

/-- The order of an integer of 64 bits and a binary number. A number that is beyond all such
integers is recognized first. Any other is compared without its fraction, and if the two agree up to
there, the fraction decides. -/
def orderInt (n : Int64) (b : Binary) : Ordering :=
  if b.order wordBound != .lt then .lt
  else if b.order wordBound.opposite == .lt then .gt
  else (compare n b.word).then (zero.order b.fraction)

end Binary

/-! ## Floating-point numbers -/

/-- What a floating-point number denotes. -/
inductive Denotation where
  | undefined
  | infinite (negative : Bool)
  | finite (b : Binary)
deriving Repr, DecidableEq

/-- Reads a floating-point number: one bit of sign, eleven of exponent and fifty-two of
significand. The least exponent belongs to the numbers without a leading bit. -/
def denoteBits (bits : Nat) : Denotation :=
  let negative := bits / Nat.pow 2 63 % 2 == 1
  let exponent : Nat := bits / Nat.pow 2 52 % Nat.pow 2 11
  let fraction := bits % Nat.pow 2 52
  if exponent = 2047 then if fraction = 0 then .infinite negative else .undefined
  else if exponent = 0 then .finite ⟨negative, fraction, -1074⟩
  else .finite ⟨negative, Nat.pow 2 52 + fraction, (exponent : Int) - 1075⟩

/-- What a floating-point number denotes. -/
def denote (x : Float) : Denotation := denoteBits x.toBits.toNat

/-- Whether the number is neither undefined nor infinite. -/
def isFinite (x : Float) : Bool := denote x matches .finite _

/-- The order of two floating-point numbers, unless one of them is undefined. -/
def orderFloats (x y : Float) : Option Ordering :=
  match denote x, denote y with
  | .undefined, _ => none
  | _, .undefined => none
  | .infinite s, .infinite t => some (compare (!s) (!t))
  | .infinite s, .finite _ => some (if s then .lt else .gt)
  | .finite _, .infinite s => some (if s then .gt else .lt)
  | .finite a, .finite b => some (a.order b)

/-- The order of an integer of 64 bits and a floating-point number, unless the latter is
undefined. -/
def orderIntFloat (n : Int64) (x : Float) : Option Ordering :=
  match denote x with
  | .undefined => none
  | .infinite s => some (if s then .gt else .lt)
  | .finite b => some (b.orderInt n)

/-- Whether two floating-point numbers denote the same number. Zero has two signs, and an undefined
number is not even the same as itself. -/
def sameFloat (x y : Float) : Bool := orderFloats x y == some .eq

end JsonPath.Number
