import UniversalQuery.Decimal.Basic
import UniversalQuery.Decimal.Binary64

set_option autoImplicit false

/-! Shortest decimal text of a floating-point number: the fewest digits that still read back as the
same number, and of those the nearest to it. -/

namespace UniversalQuery.Decimal

/-- Which of two equally near decimals is taken. -/
inductive Tie where
  | even
  | up
deriving DecidableEq, Repr

/-- The reals that round to one floating-point number, in units of `2 ^ exponent`. -/
structure RoundingInterval where
  low : Nat
  value : Nat
  high : Nat
  exponent : Int
  /-- Whether the two ends belong to the interval. -/
  closed : Bool

/-- The interval of a positive number `significand · 2 ^ exponent`. Its ends lie half-way to the two
neighbours; below a power of two the neighbour is nearer. -/
def RoundingInterval.of (significand : Nat) (exponent : Int) : RoundingInterval :=
  let narrow := significand = Nat.pow 2 52 ∧ Binary64.leastExponent < exponent
  { low := 4 * significand - if narrow then 1 else 2
    value := 4 * significand
    high := 4 * significand + 2
    exponent := exponent - 2
    closed := significand % 2 == 0 }

/-- The multiples of `10 ^ exponent` nearest to the value on its two sides, if they lie in the
interval; of two the nearer one. -/
def RoundingInterval.onGrid? (interval : RoundingInterval) (tie : Tie) (exponent : Int) :
    Option Nat :=
  let above := Nat.pow 2 interval.exponent.toNat * Nat.pow 10 (-exponent).toNat
  let below := Nat.pow 2 (-interval.exponent).toNat * Nat.pow 10 exponent.toNat
  let lies (multiple : Nat) : Bool :=
    if interval.closed then
      interval.low * above ≤ multiple * below && multiple * below ≤ interval.high * above
    else
      interval.low * above < multiple * below && multiple * below < interval.high * above
  let floor := interval.value * above / below
  let toFloor := interval.value * above - floor * below
  let toCeiling := (floor + 1) * below - interval.value * above
  match lies floor, lies (floor + 1) with
  | false, false => none
  | true, false => some floor
  | false, true => some (floor + 1)
  | true, true =>
    if toFloor < toCeiling then some floor
    else if toCeiling < toFloor then some (floor + 1)
    else match tie with
      | .up => some (floor + 1)
      | .even => if floor % 2 = 0 then some floor else some (floor + 1)

/-- Tries ever finer grids until one of them has a point in the interval. -/
def RoundingInterval.search (interval : RoundingInterval) (tie : Tie) : Nat → Int → Decimal
  | 0, exponent => ⟨0, exponent⟩
  | steps + 1, exponent =>
    match interval.onGrid? tie exponent with
    | some multiple => ⟨multiple, exponent⟩
    | none => interval.search tie steps (exponent - 1)

/-- The shortest decimal for `significand · 2 ^ exponent`. The search starts at a power of ten above
the number and needs at most one step for each of its seventeen digits and a few before them. -/
def shortest (tie : Tie) (significand : Nat) (exponent : Int) : Decimal :=
  if significand = 0 then ⟨0, 0⟩
  else
    let bits : Int := significand.log2 + 1 + exponent
    (RoundingInterval.of significand exponent).search tie 24 (bits * 30103 / 100000 + 2)

end UniversalQuery.Decimal
