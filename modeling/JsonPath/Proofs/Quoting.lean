import Mathlib.Data.List.Basic
import JsonPath.Proofs.Lexing.Literal
import JsonPath.Query.Printer

/-!
# String literals are read as they are written

A character is written in a literal as itself, as a letter behind a backslash, or as four
hexadecimal digits. Each of these forms is a sign that denotes the character, so what is written for
a text is a row of signs that denotes the text.
-/

namespace JsonPath.Query

open JsonPath.Text JsonPath.Token

/-! ## The forms of a character -/

/-- The four hexadecimal digits for a control character. -/
def controlDigits (n : Nat) : List Char := ['0', '0', digitChar (n / 16), digitChar (n % 16)]

theorem padded_digits {n : Nat} (h : n < 0x20) : padded 4 (digits 16 n) = controlDigits n := by
  by_cases h16 : n < 16
  · rw [digits_of_lt h16, controlDigits, Nat.div_eq_of_lt h16, Nat.mod_eq_of_lt h16]
    rfl
  · have h1 : n / 16 < 16 := by omega
    rw [digits_of_le (by decide) (Nat.le_of_not_lt h16), digits_of_lt h1]
    rfl

theorem isQuad_controlDigits {n : Nat} (h : n < 0x20) : Literal.IsQuad (controlDigits n) n := by
  refine ⟨rfl, ?_⟩
  revert n
  decide

/-- The letter for a character denotes it, and is one that may stand behind a backslash. -/
theorem escapeLetter?_spec {c l : Char} (h : escapeLetter? c = some l) :
    Literal.escaped l = c ∧ l ≠ 'u' ∧ (l == '\'' || isEscapeLetter l) = true := by
  unfold escapeLetter? at h
  split at h
  case h_8 => cases h
  all_goals
    cases h
    decide

/-- No control character is a half of a surrogate pair. -/
theorem control_spec {n : Nat} (h : n < 0x20) :
    isHighSurrogate n = false ∧ isLowSurrogate n = false ∧ Literal.charOf n = .ofNat n := by
  revert n
  decide

/-! ## Texts -/

/-- What is written for a character denotes it. -/
theorem denotes_escapeChar (c : Char) : Literal.Denotes '\'' (escapeChar c) c := by
  unfold escapeChar
  split
  · next l hl =>
    obtain ⟨hc, hu, hesc⟩ := escapeLetter?_spec hl
    exact hc ▸ .letter hu hesc
  · next hl =>
    split
    · next hlt =>
      have hn : c.toNat < 0x20 := hlt
      obtain ⟨hhigh, hlow, hchar⟩ := control_spec hn
      have hcode : Literal.Denotes '\'' _ _ := .code (isQuad_controlDigits hn) hhigh hlow
      rw [hchar, Char.ofNat_toNat] at hcode
      rwa [List.cons_append, List.singleton_append, padded_digits hn]
    · next hle =>
      have hs : c ≠ '\\' := by
        rintro rfl
        cases hl
      have hq : c ≠ '\'' := by
        rintro rfl
        cases hl
      refine .plain hq hs ?_
      by_cases hd : c = '"'
      · simp [hd]
      · simp [isPlain, Char.not_lt.mp hle, hs, hq, hd]

/-- What is written for a text denotes it. -/
theorem inside_escapeText (cs : List Char) : Literal.Inside '\'' (cs.flatMap escapeChar) cs := by
  induction cs with
  | nil => exact .nil
  | cons c cs ih =>
    rw [List.flatMap_cons]
    exact .cons (denotes_escapeChar c) ih

/-- A text is what its literal denotes. -/
theorem unescape_literalText (s : String) :
    Literal.unescape (.ofList (literalText s)) = s := by
  rw [Literal.unescape, String.toList_ofList, literalText, List.cons_append, List.drop_succ_cons,
    List.drop_zero, List.dropLast_concat, escapeText, Literal.decode_inside (inside_escapeText _),
    String.ofList_toList]

end JsonPath.Query
