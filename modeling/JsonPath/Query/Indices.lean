import JsonPath.Query

/-!
# The items that indices and slices pick

An index counts from the front of an array, or from its end if it is negative. A slice goes from one
bound towards another, which it does not reach, in steps of any width and either direction: a bound
counts like an index, bounds outside of the array are moved to its ends, and a step of zero goes
nowhere.

Sums of indices are kept within 64 bits (`saturated`). No array is so long that this would ever
change what a slice picks.
-/

namespace JsonPath.Query

/-- The nearest integer of 64 bits. -/
def saturated (i : Int) : Int := max Int64.minValue.toInt (min i Int64.maxValue.toInt)

/-- The place, counted from the front, of a bound that may count from the end. -/
def fromFront (length : Int) (bound : Int64) : Int :=
  if bound < 0 then saturated (length + bound.toInt) else bound.toInt

/-- The place that an index stands for in an array, unless it is outside. -/
def place? (index : Int64) (length : Nat) : Option Nat :=
  let i := fromFront (saturated length) index
  if 0 ≤ i ∧ i.toNat < length then some i.toNat else none

/-- A number, moved to the nearer end of a range if it is outside. -/
def clamped (low high i : Int) : Int := max low (min i high)

namespace Slice

/-- The first index and the bound that is not reached, for an array of a given length. They lie
between the front and the end, or one place before if the slice goes backwards. -/
def bounds (s : Slice) (length : Int) : Int × Int :=
  let start := s.start.map (fromFront length)
  let stop := s.stop.map (fromFront length)
  match compare (s.step.getD 1) 0 with
  | .gt => (clamped 0 length (start.getD 0), clamped 0 length (stop.getD length))
  | .lt => (clamped (-1) (length - 1) (start.getD (length - 1)),
      clamped (-1) (length - 1) (stop.getD (-length - 1)))
  | .eq => (0, 0)

/-- The indices from one on, in steps of a given width, up to a bound; a number of them at most. -/
def indicesFrom (step bound : Int) : Nat → Int → List Nat
  | 0, _ => []
  | n + 1, i =>
    if (if 0 < step then i < bound else bound < i) then
      i.toNat :: indicesFrom step bound n (saturated (i + step))
    else []

/-- The indices that a slice picks from an array of a given length, in order. There are never more
of them than items. -/
def indices (s : Slice) (length : Nat) : List Nat :=
  let (first, bound) := s.bounds (saturated length)
  indicesFrom (s.step.getD 1).toInt bound length first

end Slice

end JsonPath.Query
