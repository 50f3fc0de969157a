import JsonPath.Token.Lexer

/-!
# Characters and their octets

A text that is written as octets is read back character by character: the reader decodes what
UTF-8 encodes (`readings_toUTF8`). So a lexer for the octets of a text is a lexer for its
characters, unless the text starts with a byte order mark.
-/

namespace JsonPath.Text

/-! ## One character -/

/-- A continuation octet adds its six bits. -/
theorem readTail_ofNat {n : Nat} (h : n < 0x40) (count bits : Nat) (rest : List UInt8) :
    readTail (count + 1) bits (UInt8.ofNat (n + 0x80) :: rest)
      = readTail count (64 * bits + n) rest := by
  have hn : continuation? (UInt8.ofNat (n + 0x80)) = some n := by
    rw [continuation?, UInt8.toNat_ofNat_of_lt' (show n + 0x80 < 0x100 by omega)]
    simp only [if_pos (show 0x80 ≤ n + 0x80 ∧ n + 0x80 < 0xC0 by omega), Nat.add_sub_cancel]
  rw [readTail, hn]

/-- An octet below 0x80 is a code point by itself. -/
theorem announced?_one {n : Nat} (h : n < 0x80) : announced? (UInt8.ofNat n) = some (0, n) := by
  rw [announced?, UInt8.toNat_ofNat_of_lt' (show n < 0x100 by omega)]
  exact if_pos h

/-- The mark of two octets leaves five bits for the first. -/
theorem announced?_two {n : Nat} (h : n < 0x20) :
    announced? (UInt8.ofNat (n + 0xC0)) = some (1, n) := by
  rw [announced?, UInt8.toNat_ofNat_of_lt' (show n + 0xC0 < 0x100 by omega)]
  simp only [if_neg (show ¬ n + 0xC0 < 0x80 by omega), if_neg (show ¬ n + 0xC0 < 0xC0 by omega),
    if_pos (show n + 0xC0 < 0xE0 by omega), Nat.add_sub_cancel]

/-- The mark of three octets leaves four bits for the first. -/
theorem announced?_three {n : Nat} (h : n < 0x10) :
    announced? (UInt8.ofNat (n + 0xE0)) = some (2, n) := by
  rw [announced?, UInt8.toNat_ofNat_of_lt' (show n + 0xE0 < 0x100 by omega)]
  simp only [if_neg (show ¬ n + 0xE0 < 0x80 by omega), if_neg (show ¬ n + 0xE0 < 0xC0 by omega),
    if_neg (show ¬ n + 0xE0 < 0xE0 by omega), if_pos (show n + 0xE0 < 0xF0 by omega),
    Nat.add_sub_cancel]

/-- The mark of four octets leaves three bits for the first. -/
theorem announced?_four {n : Nat} (h : n < 0x08) :
    announced? (UInt8.ofNat (n + 0xF0)) = some (3, n) := by
  rw [announced?, UInt8.toNat_ofNat_of_lt' (show n + 0xF0 < 0x100 by omega)]
  simp only [if_neg (show ¬ n + 0xF0 < 0x80 by omega), if_neg (show ¬ n + 0xF0 < 0xC0 by omega),
    if_neg (show ¬ n + 0xF0 < 0xE0 by omega), if_neg (show ¬ n + 0xF0 < 0xF0 by omega),
    if_pos (show n + 0xF0 < 0xF8 by omega), Nat.add_sub_cancel]

theorem toNat_lt (c : Char) : c.toNat < 0x110000 := by
  rcases c.valid with h | h
  · exact Nat.lt_trans h (by decide)
  · exact h.2

/-- Octets that have the form of a sequence encode the number that is made of the bits behind their
prefixes. The form may be longer than the number needs. -/
inductive Encodes : List UInt8 → Nat → Prop
  | one {n} (hn : n < 0x80) : Encodes [.ofNat n] n
  | two {a x} (ha : a < 0x20) (hx : x < 0x40) :
    Encodes [.ofNat (a + 0xC0), .ofNat (x + 0x80)] (64 * a + x)
  | three {a x y} (ha : a < 0x10) (hx : x < 0x40) (hy : y < 0x40) :
    Encodes [.ofNat (a + 0xE0), .ofNat (x + 0x80), .ofNat (y + 0x80)] (64 * (64 * a + x) + y)
  | four {a x y z} (ha : a < 0x08) (hx : x < 0x40) (hy : y < 0x40) (hz : z < 0x40) :
    Encodes [.ofNat (a + 0xF0), .ofNat (x + 0x80), .ofNat (y + 0x80), .ofNat (z + 0x80)]
      (64 * (64 * (64 * a + x) + y) + z)

/-- A sequence is read at once, whatever follows it. -/
theorem Encodes.readFrom_eq {os : List UInt8} {n : Nat} (h : Encodes os n) : ∃ lead tail,
    os = lead :: tail ∧ ∀ rest, readFrom lead (tail ++ rest) = (.codePoint n, rest) := by
  cases h with
  | one hn =>
    refine ⟨_, _, rfl, fun rest => ?_⟩
    rw [readFrom, announced?_one hn]
    rfl
  | two ha hx =>
    refine ⟨_, _, rfl, fun rest => ?_⟩
    rw [readFrom, announced?_two ha]
    exact readTail_ofNat hx 0 _ rest
  | three ha hx hy =>
    refine ⟨_, _, rfl, fun rest => ?_⟩
    rw [readFrom, announced?_three ha]
    exact (readTail_ofNat hx 1 _ _).trans (readTail_ofNat hy 0 _ rest)
  | four ha hx hy hz =>
    refine ⟨_, _, rfl, fun rest => ?_⟩
    rw [readFrom, announced?_four ha]
    exact (readTail_ofNat hx 2 _ _).trans
      ((readTail_ofNat hy 1 _ _).trans (readTail_ofNat hz 0 _ rest))

/-- The octets of a code point are read as it, whatever follows. -/
theorem Encodes.readings_append {os : List UInt8} {n : Nat} (h : Encodes os n)
    (rest : List UInt8) : readings (os ++ rest) = .codePoint n :: readings rest := by
  obtain ⟨lead, tail, rfl, hread⟩ := h.readFrom_eq
  rw [List.cons_append, readings_cons, hread]

/-- The octets of a character are a sequence that encodes it. -/
theorem encodes_utf8EncodeChar (c : Char) : Encodes (String.utf8EncodeChar c) c.toNat := by
  have hmax := toNat_lt c
  rw [show c.toNat = c.val.toNat from rfl] at hmax ⊢
  unfold String.utf8EncodeChar
  generalize c.val.toNat = n at hmax ⊢
  have low (m : Nat) : m % 0x40 < 0x40 := Nat.mod_lt m (by decide)
  dsimp only
  split
  · exact .one (by omega)
  · split
    · have h := Encodes.two (Nat.mod_lt (n / 64) (show 0 < 0x20 by decide)) (low n)
      rwa [show 64 * (n / 64 % 0x20) + n % 0x40 = n by omega] at h
    · split
      · have h := Encodes.three (Nat.mod_lt (n / 4096) (show 0 < 0x10 by decide)) (low (n / 64))
          (low n)
        rwa [show 64 * (64 * (n / 4096 % 0x10) + n / 64 % 0x40) + n % 0x40 = n by omega] at h
      · have h := Encodes.four (Nat.mod_lt (n / 262144) (show 0 < 0x08 by decide))
          (low (n / 4096)) (low (n / 64)) (low n)
        rwa [show 64 * (64 * (64 * (n / 262144 % 0x08) + n / 4096 % 0x40) + n / 64 % 0x40)
          + n % 0x40 = n by omega] at h

/-- The octets of a character are read as its code point. -/
theorem readings_encode (c : Char) (rest : List UInt8) :
    readings (String.utf8EncodeChar c ++ rest) = .codePoint c.toNat :: readings rest :=
  (encodes_utf8EncodeChar c).readings_append rest

theorem char?_codePoint (c : Char) : Reading.char? (.codePoint c.toNat) = some c := by
  have hc : c.toNat.isValidChar := c.valid
  rw [Reading.char?, dif_pos hc]
  refine congrArg some (Char.ext ?_)
  exact UInt32.ofNat_toNat

/-! ## Texts -/

theorem toList_loop (b : ByteArray) (i : Nat) (acc : List UInt8) :
    ByteArray.toList.loop b i acc = acc.reverse ++ b.data.toList.drop i := by
  fun_induction ByteArray.toList.loop b i acc with
  | case1 i acc h ih =>
    rw [ih, List.reverse_cons, List.append_assoc, List.drop_eq_getElem_cons h]
    exact congrArg (acc.reverse ++ · :: b.data.toList.drop (i + 1)) (getElem!_pos b.data i h)
  | case2 i acc h =>
    rw [List.drop_eq_nil_of_le (Nat.le_of_not_lt h), List.append_nil]

/-- The octets of a text are those of its characters. -/
theorem toUTF8_toList (s : String) : s.toUTF8.toList = s.toList.flatMap String.utf8EncodeChar := by
  rw [ByteArray.toList, toList_loop, String.toUTF8_eq_toByteArray, ← String.utf8Encode_toList]
  simp [List.utf8Encode]

/-- What is read from the octets of a text are the characters of the text. -/
theorem readings_toUTF8 (s : String) :
    (readings s.toUTF8.toList).map Reading.char? = s.toList.map some := by
  rw [toUTF8_toList]
  induction s.toList with
  | nil => simp
  | cons c cs ih =>
    rw [List.flatMap_cons, readings_encode, List.map_cons, List.map_cons, ih, char?_codePoint]

/-- The octets of a text start with those of the byte order mark only if the text starts with it. -/
theorem head?_of_isMarked {cs : List Char}
    (h : byteOrderMark <+: cs.flatMap String.utf8EncodeChar) : cs.head? = some '\uFEFF' := by
  obtain ⟨rest, hrest⟩ := h
  have hread := congrArg readings hrest
  rw [show byteOrderMark = String.utf8EncodeChar '\uFEFF' from rfl, readings_encode] at hread
  cases cs with
  | nil =>
    rw [List.flatMap_nil, readings_nil] at hread
    cases hread
  | cons c cs =>
    rw [List.flatMap_cons, readings_encode] at hread
    have hcode := Reading.codePoint.inj (List.cons.inj hread).1
    exact congrArg some (Char.toNat_inj.mp hcode).symm

end JsonPath.Text

namespace JsonPath.Token

open JsonPath.Text

theorem Lexer.ofBytes_mark_append (octets : List UInt8) :
    Lexer.ofBytes (byteOrderMark ++ octets) = ⟨true, (readings octets).map Reading.char?⟩ := rfl

theorem Lexer.ofBytes_unmarked {octets : List UInt8} (h : ¬ byteOrderMark <+: octets) :
    Lexer.ofBytes octets = ⟨false, (readings octets).map Reading.char?⟩ := by
  have hmarked : byteOrderMark.isPrefixOf octets = false :=
    Bool.eq_false_iff.mpr fun hm => h (List.isPrefixOf_iff_prefix.mp hm)
  rw [Lexer.ofBytes, Reader.ofBytes, hmarked]
  rfl

/-- A lexer in front of a text that does not start with a byte order mark. -/
theorem Lexer.ofBytes_toUTF8 {s : String} (h : s.toList.head? ≠ some '\uFEFF') :
    Lexer.ofBytes s.toUTF8.toList = ⟨false, s.toList.map some⟩ := by
  have hmarked : ¬ byteOrderMark <+: s.toUTF8.toList := fun hm =>
    h (head?_of_isMarked (toUTF8_toList s ▸ hm))
  rw [Lexer.ofBytes_unmarked hmarked, readings_toUTF8]

/-- The tokens of a text that does not start with a byte order mark. -/
theorem tokenize_toUTF8 {s : String} (h : s.toList.head? ≠ some '\uFEFF') :
    tokenize s.toUTF8.toList = lexemes (s.toList.map some) ++ [endOfInput] := by
  rw [tokenize, Lexer.ofBytes_toUTF8 h]
  rfl

end JsonPath.Token
