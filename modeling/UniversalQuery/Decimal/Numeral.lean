import UniversalQuery.Decimal.Basic

set_option autoImplicit false

/-! Numerals as they stand in a text, and the numbers they are read as. -/

namespace UniversalQuery.Decimal

/-- A number. Whole ones that fit 64 bits are exact. -/
inductive Number where
  | int (value : Int)
  | float (value : Float)

/-- A numeral: sign, digits before and after the point, and the power of ten if one is written. -/
structure Numeral where
  negative : Bool
  whole : List Char
  fraction : List Char
  exponent : Option Int
deriving DecidableEq, Repr

namespace Numeral

def significandBound : Nat := Nat.pow 2 64

/-- Appends digits to a significand of 64 bits while they fit. The second part counts the digits
that did not. -/
def appendDigits (significand : Nat) : List Char → Nat × Nat
  | [] => (significand, 0)
  | c :: rest =>
    let longer := significand * 10 + digitValue c
    if longer < significandBound then appendDigits longer rest
    else (significand, rest.length + 1)

/-- The significand of 64 bits and the power of ten that goes with it. Digits that do not fit are
dropped; before the point they still count as places. -/
def parts (numeral : Numeral) : Nat × Int :=
  let (whole, excess) := appendDigits 0 numeral.whole
  let (significand, unread) := appendDigits whole numeral.fraction
  let read : Int := numeral.fraction.length - unread
  (significand, excess - read + numeral.exponent.getD 0)

def powerOfTen (exponent : Nat) : Float :=
  Float.ofScientific 1 false exponent

/-- A significand times a power of ten, in floating-point arithmetic. A number too large is refused;
one too small is zero. -/
def scale (significand : Nat) (exponent : Int) : Option Float :=
  let start := Float.ofNat significand
  if 308 < exponent then
    if significand = 0 then some start else none
  else if 0 ≤ exponent then
    let product := start * powerOfTen exponent.toNat
    if product.isInf then none else some product
  else if -308 ≤ exponent then
    some (start / powerOfTen (-exponent).toNat)
  else if -616 ≤ exponent then
    some (start / powerOfTen 308 / powerOfTen (-exponent - 308).toNat)
  else
    some 0

/-- The numeral as a floating-point number, unless it is too large. -/
def toFloat? (numeral : Numeral) : Option Float :=
  (scale numeral.parts.1 numeral.parts.2).map fun size => if numeral.negative then -size else size

/-- The whole number that the numeral spells, if it has neither fraction nor power of ten. A
negative zero is no whole number. -/
def toInt? (numeral : Numeral) : Option Int :=
  if numeral.fraction = [] ∧ numeral.exponent = none then
    let size := ofDigits numeral.whole
    if numeral.negative then if size = 0 then none else some (-size) else some size
  else none

def fitsWord (value : Int) : Bool :=
  -Int.pow 2 63 ≤ value && value < Int.pow 2 63

/-- The number of a numeral: whole if it is written so and fits 64 bits, floating-point otherwise.
There is none if it is too large. -/
def number? (numeral : Numeral) : Option Number :=
  match numeral.toInt?.filter fitsWord with
  | some value => some (.int value)
  | none => numeral.toFloat?.map .float

end Numeral

end UniversalQuery.Decimal
