/-!
# Numerals

Natural numbers and integers written in positional notation, most significant digit first, and
the value of such digits. Writing is `digits`, reading is `ofDigits`; `ofDigits_snoc` is the step
that relates them.
-/

namespace JsonPath.Text

/-! ## Writing -/

/-- The digit of a value below thirty-six, letters in lower case. -/
def digitChar (d : Nat) : Char :=
  if d < 10 then Char.ofNat ('0'.toNat + d) else Char.ofNat ('a'.toNat + (d - 10))

/-- The digits of a natural number in a base of at least two. -/
def digits (base n : Nat) : List Char :=
  if _h : n < base ∨ base < 2 then [digitChar n]
  else digits base (n / base) ++ [digitChar (n % base)]
termination_by n
decreasing_by exact Nat.div_lt_self (by omega) (by omega)

/-- A number below the base has one digit. -/
theorem digits_of_lt {base n : Nat} (h : n < base) : digits base n = [digitChar n] := by
  rw [digits, dif_pos (.inl h)]

/-- Any other number has the digits of its quotient, and one more. -/
theorem digits_of_le {base n : Nat} (hb : 2 ≤ base) (h : base ≤ n) :
    digits base n = digits base (n / base) ++ [digitChar (n % base)] := by
  rw [digits, dif_neg (by omega)]

/-- No number is written without digits. -/
theorem digits_ne_nil (base n : Nat) : digits base n ≠ [] := by
  rw [digits]; split <;> simp

/-- An integer in decimal notation, with a hyphen in front of a negative one. -/
def integer (i : Int) : List Char :=
  if i < 0 then '-' :: digits 10 i.natAbs else digits 10 i.natAbs

/-- Digits padded with zeros on the left to a width. -/
def padded (width : Nat) (ds : List Char) : List Char :=
  List.replicate (width - ds.length) '0' ++ ds

/-! ## Reading -/

/-- The value of a decimal digit. -/
def decimalValue? (c : Char) : Option Nat :=
  if '0' ≤ c ∧ c ≤ '9' then some (c.toNat - '0'.toNat) else none

/-- The value of a hexadecimal digit, in either case. -/
def hexValue? (c : Char) : Option Nat :=
  if '0' ≤ c ∧ c ≤ '9' then some (c.toNat - '0'.toNat)
  else if 'a' ≤ c ∧ c ≤ 'f' then some (c.toNat - 'a'.toNat + 10)
  else if 'A' ≤ c ∧ c ≤ 'F' then some (c.toNat - 'A'.toNat + 10)
  else none

/-- Whether the character is a decimal digit of the Latin script. -/
def isDigit (c : Char) : Bool := '0' ≤ c && c ≤ '9'

/-- The number that decimal digits denote; other characters count as zero. -/
def ofDigits (cs : List Char) : Nat :=
  cs.foldl (fun n c => 10 * n + (decimalValue? c).getD 0) 0

@[simp] theorem ofDigits_nil : ofDigits [] = 0 := rfl

/-- A digit more at the end makes room for itself. -/
theorem ofDigits_snoc (cs : List Char) (c : Char) :
    ofDigits (cs ++ [c]) = 10 * ofDigits cs + (decimalValue? c).getD 0 := by
  simp [ofDigits, List.foldl_append]

/-- The integer that a decimal numeral with an optional hyphen denotes. -/
def ofInteger : List Char → Int
  | '-' :: cs => -(ofDigits cs : Int)
  | cs => ofDigits cs

end JsonPath.Text
