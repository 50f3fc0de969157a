import JsonPath.Text.Numeral
import JsonPath.Unicode.Latest

/-!
# Quoted text

Texts shown inside a message stand between double quotes. A character that would end the text, or
that cannot be seen, is written as an escape: a letter for the most common ones, and the code point
in hexadecimal for all others.
-/

namespace JsonPath.Text

open JsonPath.Unicode

/-- The letter that stands for a character behind a backslash, if it has one. -/
def shortEscape? : Char → Option Char
  | '"' => some '"'
  | '\\' => some '\\'
  | '\n' => some 'n'
  | '\r' => some 'r'
  | '\t' => some 't'
  | '\x00' => some '0'
  | _ => none

/-- A character as it is written between quotes. -/
def quotedChar (c : Char) : List Char :=
  match shortEscape? c with
  | some letter => ['\\', letter]
  | none => if isShowable c then [c] else ['\\', 'u', '\x7b'] ++ digits 16 c.toNat ++ ['\x7d']

/-- A text between double quotes. -/
def quoted (text : String) : String :=
  .ofList ('"' :: text.toList.flatMap quotedChar ++ ['"'])

end JsonPath.Text
