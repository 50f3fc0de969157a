import JsonPath.Unicode.Ranges

/-!
# Ranges as octets

In UTF-8 a code point is written as one to four octets. A range of code points is written as a
choice of sequences of ranges of octets: a sequence stands for all texts that have an octet of its
first range, then one of its second, and so on. For this the range is divided so that in each piece
all code points have the same number of octets, and so that where one octet varies all behind it
take every value they can.
-/

namespace JsonPath.Unicode

/-- The octets of a code point. -/
def octets (n : Nat) : List Nat :=
  if n < 0x80 then [n]
  else if n < 0x800 then [0xC0 + n / 64, 0x80 + n % 64]
  else if n < 0x10000 then [0xE0 + n / 4096, 0x80 + n / 64 % 64, 0x80 + n % 64]
  else [0xF0 + n / 262144, 0x80 + n / 4096 % 64, 0x80 + n / 64 % 64, 0x80 + n % 64]

/-- A sequence of ranges of octets. -/
abbrev OctetRanges := List (Nat × Nat)

/-- The parts of a range in front of the surrogates and behind them. -/
def withoutSurrogates (r : Nat × Nat) : Ranges :=
  if r.1 < 0xE000 ∧ 0xD7FF < r.2 then [(r.1, 0xD7FF), (0xE000, r.2)] else [r]

/-- The parts of a range up to a code point and behind it. -/
def cutBehind (last : Nat) (r : Nat × Nat) : Ranges :=
  if r.1 ≤ last ∧ last < r.2 then [(r.1, last), (last + 1, r.2)] else [r]

/-- The parts of a range in front of its first whole block, the whole blocks, and the part behind
them, where blocks have a given size. A range inside of a block is left as it is. -/
def cutAtBlocks (size : Nat) (r : Nat × Nat) : Ranges :=
  if r.1 / size = r.2 / size then [r]
  else
    let low := (r.1 + size - 1) / size * size
    let high := (r.2 + 1) / size * size
    (if r.1 < low then [(r.1, low - 1)] else [])
      ++ (if low < high then [(low, high - 1)] else [])
      ++ (if high ≤ r.2 then [(high, r.2)] else [])

/-- The parts of a range for which all octets but the varying ones agree. -/
def evenParts (r : Nat × Nat) : Ranges :=
  if r.2 < 0x80 then [r]
  else
    let parts := cutAtBlocks 64 r
    let parts := parts.flatMap (cutAtBlocks 4096)
    parts.flatMap (cutAtBlocks 262144)

/-- The sequences for a range, in ascending order. -/
def octetRanges (r : Nat × Nat) : List OctetRanges :=
  let parts := withoutSurrogates r
  let parts := parts.flatMap (cutBehind 0x7F)
  let parts := parts.flatMap (cutBehind 0x7FF)
  let parts := parts.flatMap (cutBehind 0xFFFF)
  (parts.flatMap evenParts).map fun r => (octets r.1).zip (octets r.2)

end JsonPath.Unicode
