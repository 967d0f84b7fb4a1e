set_option autoImplicit false

/-! Floating-point numbers of 64 bits as sign, significand and power of two. -/

namespace UniversalQuery

/-- What the bits of a 64-bit floating-point number stand for. -/
inductive Binary64 where
  | nan
  | infinite (negative : Bool)
  /-- The number `± significand · 2 ^ exponent`. -/
  | finite (negative : Bool) (significand : Nat) (exponent : Int)
deriving DecidableEq, Repr

namespace Binary64

/-- The power of two of the subnormal numbers, the smallest there is. -/
def leastExponent : Int := -1074

def ofFloat (number : Float) : Binary64 :=
  let bits := number.toBits.toNat
  let negative := bits / Nat.pow 2 63 == 1
  let biased : Nat := bits / Nat.pow 2 52 % Nat.pow 2 11
  let fraction : Nat := bits % Nat.pow 2 52
  if biased = 2047 then
    if fraction = 0 then .infinite negative else .nan
  else if biased = 0 then
    .finite negative fraction leastExponent
  else
    .finite negative (Nat.pow 2 52 + fraction) (leastExponent + biased - 1)

/-- The absolute value of a finite number, if it is whole. -/
def wholePart? (significand : Nat) (exponent : Int) : Option Nat :=
  if 0 ≤ exponent then some (significand * Nat.pow 2 exponent.toNat)
  else if significand % Nat.pow 2 (-exponent).toNat = 0 then
    some (significand / Nat.pow 2 (-exponent).toNat)
  else none

theorem wholePart?_eq_some_iff {significand : Nat} {exponent : Int} {size : Nat} :
    wholePart? significand exponent = some size ↔
      significand * Nat.pow 2 exponent.toNat = size * Nat.pow 2 (-exponent).toNat := by
  unfold wholePart?
  have positive : 0 < Nat.pow 2 (-exponent).toNat := Nat.two_pow_pos _
  split
  · have unscaled : (-exponent).toNat = 0 := by omega
    simp [unscaled]
  · have unscaled : exponent.toNat = 0 := by omega
    have one : Nat.pow 2 exponent.toNat = 1 := by rw [unscaled]
    rw [one, Nat.mul_one]
    split
    · rename_i exact
      rw [Option.some_inj, Nat.div_eq_iff_eq_mul_left positive (Nat.dvd_of_mod_eq_zero exact)]
    · rename_i inexact
      refine iff_of_false (by simp) fun same => inexact ?_
      rw [same, Nat.mul_mod_left]

end Binary64

end UniversalQuery
