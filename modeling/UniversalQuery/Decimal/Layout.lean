import UniversalQuery.Decimal.Shortest

set_option autoImplicit false

/-! Layouts of decimal numbers: positional and scientific text. -/

namespace UniversalQuery.Decimal

def leadingExponent (number : Decimal) : Int :=
  number.exponent + (Nat.toDigits 10 number.coefficient).length - 1

/-- All digits at their places. A whole number ends in the given mark. -/
def positionalText (number : Decimal) (wholeMark : String) : String :=
  let digits := Nat.toDigits 10 number.coefficient
  let places := (-number.exponent).toNat
  if 0 ≤ number.exponent then
    String.ofList (digits ++ List.replicate number.exponent.toNat '0') ++ wholeMark
  else if places < digits.length then
    String.ofList (digits.take (digits.length - places) ++ '.' ::
      digits.drop (digits.length - places))
  else
    String.ofList ('0' :: '.' :: (List.replicate (places - digits.length) '0' ++ digits))

/-- One digit before the point, the others after it, and the power of ten with its sign. -/
def scientificText (number : Decimal) : String :=
  let mantissa := match Nat.toDigits 10 number.coefficient with
    | [] => []
    | [digit] => [digit]
    | digit :: rest => digit :: '.' :: rest
  let exponent := number.leadingExponent
  String.ofList mantissa ++ (if exponent < 0 then "e-" else "e+") ++ natText exponent.natAbs

/-- How floating-point numbers are written. -/
structure Layout where
  /-- Which of two equally near shortest decimals is written. -/
  tie : Tie
  /-- The powers of ten of the first digit for which the text is positional. -/
  positional : Int → Bool
  /-- What a whole number ends in where the text is positional. -/
  wholeMark : String
  /-- The text of what is not a number. -/
  nan : String
  /-- The texts of infinity, and of negative infinity. -/
  infinity : String
  negativeInfinity : String

/-- The text of a floating-point number. A zero keeps its sign. -/
def Layout.text (layout : Layout) (number : Float) : String :=
  match Binary64.ofFloat number with
  | .nan => layout.nan
  | .infinite negative => if negative then layout.negativeInfinity else layout.infinity
  | .finite negative significand exponent =>
    let decimal := shortest layout.tie significand exponent
    let size :=
      if layout.positional decimal.leadingExponent then decimal.positionalText layout.wholeMark
      else decimal.scientificText
    if negative then "-" ++ size else size

end UniversalQuery.Decimal
