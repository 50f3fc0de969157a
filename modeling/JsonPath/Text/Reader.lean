/-!
# Reading code points

A forward-only reader of code points from UTF-8 octets. The leading octet of a sequence announces
how many continuation octets follow; whatever does not fit that form is malformed. The reader does
not ask whether a code point is a scalar value or has a shorter form: `Reading.char?` does the
former for those who need characters.

Every read before the end consumes between one and four octets (`readFrom_length_le`), so reading
all of them ends, and `readings` lists what is found. A leading byte order mark (`EF BB BF`) is
passed over once, when the reader is set up.
-/

namespace JsonPath.Text

/-! ## One reading -/

/-- What one read finds at the front of the input. -/
inductive Reading where
  /-- a well formed sequence, and the number it encodes -/
  | codePoint (n : Nat)
  /-- a sequence that is not well formed -/
  | malformed
  /-- nothing is left -/
  | endOfInput
deriving Repr, DecidableEq

namespace Reading

/-- The character that was read, if the code point is one. -/
def char? : Reading → Option Char
  | codePoint n => if h : n.isValidChar then some ⟨n.toUInt32, by
      have hn : n < UInt32.size := by
        have := h; simp only [Nat.isValidChar] at this; simp only [UInt32.size]; omega
      simpa [UInt32.isValidChar, UInt32.toNat_ofNat_of_lt' hn] using h⟩ else none
  | malformed => none
  | endOfInput => none

end Reading

/-- The number of continuation octets that a leading octet announces, and the bits of the code
point that it holds itself. -/
def announced? (lead : UInt8) : Option (Nat × Nat) :=
  let n := lead.toNat
  if n < 0x80 then some (0, n)
  else if n < 0xC0 then none
  else if n < 0xE0 then some (1, n - 0xC0)
  else if n < 0xF0 then some (2, n - 0xE0)
  else if n < 0xF8 then some (3, n - 0xF0)
  else none

/-- The six bits of a continuation octet. -/
def continuation? (octet : UInt8) : Option Nat :=
  let n := octet.toNat
  if 0x80 ≤ n ∧ n < 0xC0 then some (n - 0x80) else none

/-- Reads continuation octets onto the bits read so far. The octet at which the sequence breaks
off is consumed. -/
def readTail : (count bits : Nat) → List UInt8 → Reading × List UInt8
  | 0, bits, rest => (.codePoint bits, rest)
  | _ + 1, _, [] => (.malformed, [])
  | count + 1, bits, octet :: rest =>
    match continuation? octet with
    | some low => readTail count (64 * bits + low) rest
    | none => (.malformed, rest)

/-- Reads the sequence that starts with a given octet. -/
def readFrom (lead : UInt8) (rest : List UInt8) : Reading × List UInt8 :=
  match announced? lead with
  | some (count, bits) => readTail count bits rest
  | none => (.malformed, rest)

/-- Continuation octets are taken from the front, so no more octets are left than there were. -/
theorem readTail_length_le (count bits : Nat) (rest : List UInt8) :
    (readTail count bits rest).2.length ≤ rest.length := by
  fun_induction readTail count bits rest with
  | case1 => exact Nat.le_refl _
  | case2 => exact Nat.le_refl _
  | case3 _ _ _ _ _ _ ih => exact Nat.le_succ_of_le ih
  | case4 => exact Nat.le_succ _

/-- What is left behind a code point is no longer than what followed its first octet. -/
theorem readFrom_length_le (lead : UInt8) (rest : List UInt8) :
    (readFrom lead rest).2.length ≤ rest.length := by
  unfold readFrom
  split
  · exact readTail_length_le ..
  · exact Nat.le_refl _

/-! ## All readings -/

/-- Everything that successive reads find before the end. -/
def readings : List UInt8 → List Reading
  | [] => []
  | lead :: rest => (readFrom lead rest).1 :: readings (readFrom lead rest).2
termination_by octets => octets.length
decreasing_by exact Nat.lt_succ_of_le (readFrom_length_le lead rest)

@[simp] theorem readings_nil : readings [] = [] := by rw [readings]

/-- Octets are read one code point after the other. -/
theorem readings_cons (lead : UInt8) (rest : List UInt8) :
    readings (lead :: rest) = (readFrom lead rest).1 :: readings (readFrom lead rest).2 := by
  rw [readings]

/-! ## The reader -/

/-- The octets of the byte order mark. -/
def byteOrderMark : List UInt8 := [0xEF, 0xBB, 0xBF]

/-- A position in a sequence of octets. -/
structure Reader where
  /-- whether the input starts with a byte order mark -/
  marked : Bool
  /-- the octets behind the mark -/
  source : List UInt8
  /-- the octets still to be read -/
  rest : List UInt8
deriving Repr

namespace Reader

/-- A reader at the start of the input, behind the byte order mark if there is one. -/
def ofBytes (octets : List UInt8) : Reader :=
  if byteOrderMark.isPrefixOf octets then
    ⟨true, octets.drop byteOrderMark.length, octets.drop byteOrderMark.length⟩
  else ⟨false, octets, octets⟩

/-- The number of octets consumed so far, the mark included. -/
def bytesRead (r : Reader) : Nat :=
  (if r.marked then byteOrderMark.length else 0) + (r.source.length - r.rest.length)

/-- Reads the next code point. At the end nothing moves any more. -/
def read (r : Reader) : Reading × Reader :=
  match r.rest with
  | [] => (.endOfInput, r)
  | lead :: rest => ((readFrom lead rest).1, { r with rest := (readFrom lead rest).2 })

/-- Goes back to the first code point. -/
def reset (r : Reader) : Reader := { r with rest := r.source }

/-- Reads everything that is left. -/
def readAll (r : Reader) : List Reading × Reader := (readings r.rest, { r with rest := [] })

end Reader

end JsonPath.Text
