import JsonPath.Json.Text
import JsonPath.Output.Sink

/-!
# Highlighted documents

A value is written piece by piece, each scalar and each name of a member in the colour of its kind.
Apart from the colours it is laid out like any other document, on one line or on many.
-/

namespace JsonPath.Output

/-! ## Colours -/

/-- What has a colour of its own. -/
inductive Shade where
  | null
  | bool
  | number
  | string
  /-- the name of a member -/
  | name
deriving Repr, DecidableEq

/-- The number of a colour, behind a number for faint or bold letters. -/
def Shade.code : Shade → List Char
  | null => ['2', ';', '3', '1']
  | bool => ['1', ';', '3', '3']
  | number => ['3', '3']
  | string => ['3', '2']
  | name => ['3', '6']

/-- The sequence that sets a colour. -/
def control (code : List Char) : List Char := ['\x1b', '['] ++ code ++ ['m']

/-- How a value is written. -/
structure Format where
  /-- whether items and members stand on lines of their own -/
  pretty : Bool
  colours : Bool
deriving Repr, DecidableEq

namespace Format

/-- A piece of text in its colour. -/
def paint (f : Format) (s : Shade) (text : List Char) : List Char :=
  if f.colours then control s.code ++ text ++ control ['0'] else text

/-- Starts a new line if there is to be one. -/
def breakLine (f : Format) (level : Nat) : Write Unit :=
  if f.pretty then put (Json.newLine level) else return

/-- What stands between the name of a member and its value. -/
def colon (f : Format) : List Char := if f.pretty then [':', ' '] else [':']

end Format

/-! ## Values -/

mutual

/-- Writes a value that is at the given level. -/
def writeValue (f : Format) (level : Nat) : Json → Write Unit
  | .null => put (f.paint .null ['n', 'u', 'l', 'l'])
  | .bool true => put (f.paint .bool ['t', 'r', 'u', 'e'])
  | .bool false => put (f.paint .bool ['f', 'a', 'l', 's', 'e'])
  | .number n => put (f.paint .number n.text)
  | .string s => put (f.paint .string (Json.stringText s))
  | .array items => do
    put ['[']
    writeItems f level items
    unless items.isEmpty do f.breakLine level
    put [']']
  | .object members => do
    put ['\x7b']
    writeMembers f level members
    unless members.isEmpty do f.breakLine level
    put ['\x7d']

/-- Writes items, one level below the array. -/
def writeItems (f : Format) (level : Nat) : List Json → Write Unit
  | [] => return
  | x :: xs => do
    f.breakLine (level + 1)
    writeValue f (level + 1) x
    unless xs.isEmpty do put [',']
    writeItems f level xs

/-- Writes members, one level below the object. -/
def writeMembers (f : Format) (level : Nat) : List (String × Json) → Write Unit
  | [] => return
  | (name, x) :: ms => do
    f.breakLine (level + 1)
    put (f.paint .name (Json.stringText name))
    put f.colon
    writeValue f (level + 1) x
    unless ms.isEmpty do put [',']
    writeMembers f level ms

end

end JsonPath.Output
