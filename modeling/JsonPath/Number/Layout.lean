import JsonPath.Number.Shortest
import JsonPath.Text.Numeral

/-!
# The text of floating-point numbers

A floating-point number is written with the fewest digits that are read back as the same number.
Whole numbers keep a point and a zero, so that they are not taken for integers. Numbers of moderate
size are written positionally, all others with the exponent of their leading digit. What else a
format has to decide is a `Layout`.
-/

namespace JsonPath.Number

open JsonPath.Text

/-- The decisions of a format of floating-point numbers. -/
structure Layout where
  /-- the least exponent of the leading digit that is written positionally -/
  plainFrom : Int
  /-- the greatest exponent of the leading digit that is written positionally -/
  plainTo : Int
  /-- whether a positive exponent has a sign -/
  plusSign : Bool
  /-- which of two equally near decimals is written -/
  tie : Tie
deriving Repr, DecidableEq

namespace Layout

/-- Digits in positional notation, the first of them with the place `place`. -/
def positional (ds : List Char) (place : Int) : List Char :=
  if place < 0 then '0' :: '.' :: (List.replicate (-place - 1).toNat '0' ++ ds)
  else
    let whole := place.toNat + 1
    if ds.length ≤ whole then ds ++ List.replicate (whole - ds.length) '0' ++ ['.', '0']
    else ds.take whole ++ '.' :: ds.drop whole

/-- Digits with the exponent of the first one. -/
def scientific (plusSign : Bool) (ds : List Char) (place : Int) : List Char :=
  let fraction := if ds.length ≤ 1 then [] else '.' :: ds.drop 1
  let sign := if plusSign && 0 ≤ place then ['+'] else []
  ds.take 1 ++ fraction ++ 'e' :: (sign ++ Text.integer place)

/-- The text of a decimal other than zero. -/
def decimal (l : Layout) (d : Decimal) : List Char :=
  let ds := digits 10 d.digits
  let place := d.exponent + ds.length - 1
  if l.plainFrom ≤ place ∧ place ≤ l.plainTo then positional ds place
  else scientific l.plusSign ds place

/-- The text of a binary number. -/
def binary (l : Layout) (b : Binary) : List Char :=
  let text := if b.significand = 0 then ['0', '.', '0'] else l.decimal (b.shortest l.tie)
  if b.negative then '-' :: text else text

/-- The text of a floating-point number. -/
def float (l : Layout) (x : Float) : List Char :=
  match denote x with
  | .undefined => ['N', 'a', 'N']
  | .infinite true => ['-', 'i', 'n', 'f']
  | .infinite false => ['i', 'n', 'f']
  | .finite b => l.binary b

end Layout

end JsonPath.Number
