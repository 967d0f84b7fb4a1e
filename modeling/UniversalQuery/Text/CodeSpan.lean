set_option autoImplicit false

/-! Evenly spaced runs of code points, the form in which the character tables are written. -/

namespace UniversalQuery.Text

/-- The code points `first`, `first + step`, … up to `last`. -/
structure CodeSpan where
  first : Nat
  last : Nat
  step : Nat
deriving DecidableEq, Repr

namespace CodeSpan

def contains (span : CodeSpan) (code : Nat) : Bool :=
  span.first ≤ code && code ≤ span.last && (code - span.first) % span.step == 0

end CodeSpan

end UniversalQuery.Text
