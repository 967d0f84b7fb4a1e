import Mathlib.Tactic.Ring
import UniversalQuery.Decimal.Layout
import UniversalQuery.Proofs.InstantText

set_option autoImplicit false

/-! Shortest decimals. The rule for ties decides on the last digit only, never on the power of ten,
and the decimal of a number has digits after the point just if the number is not whole. -/

namespace UniversalQuery.Decimal

/-! ## Grids -/

namespace RoundingInterval

variable {interval : RoundingInterval} {tie other : Tie} {exponent : Int} {multiple : Nat}

/-- What one unit of the interval is in a unit that the grid shares. -/
def unit (interval : RoundingInterval) (exponent : Int) : Nat :=
  Nat.pow 2 interval.exponent.toNat * Nat.pow 10 (-exponent).toNat

/-- What the grid of `10 ^ exponent` is spaced by in that unit. -/
def spacing (interval : RoundingInterval) (exponent : Int) : Nat :=
  Nat.pow 2 (-interval.exponent).toNat * Nat.pow 10 exponent.toNat

def floor (interval : RoundingInterval) (exponent : Int) : Nat :=
  interval.value * interval.unit exponent / interval.spacing exponent

def holds (interval : RoundingInterval) (exponent : Int) (multiple : Nat) : Bool :=
  let point := multiple * interval.spacing exponent
  if interval.closed then
    interval.low * interval.unit exponent ≤ point && point ≤ interval.high * interval.unit exponent
  else
    interval.low * interval.unit exponent < point && point < interval.high * interval.unit exponent

private theorem unit_pos : 0 < interval.unit exponent :=
  Nat.mul_pos (Nat.pow_pos (by decide)) (Nat.pow_pos (by decide))

private theorem spacing_pos : 0 < interval.spacing exponent :=
  Nat.mul_pos (Nat.pow_pos (by decide)) (Nat.pow_pos (by decide))

private theorem le_of_holds (inside : interval.holds exponent multiple = true) :
    interval.low * interval.unit exponent ≤ multiple * interval.spacing exponent ∧
      multiple * interval.spacing exponent ≤ interval.high * interval.unit exponent := by
  unfold holds at inside
  dsimp only at inside
  split at inside
  · simpa using inside
  · simp only [Bool.and_eq_true, decide_eq_true_eq] at inside
    exact ⟨Nat.le_of_lt inside.1, Nat.le_of_lt inside.2⟩

/-- Of the two multiples around the value, one that the interval holds is taken, if there is one. -/
theorem onGrid?_cases (interval : RoundingInterval) (tie : Tie) (exponent : Int) :
    (interval.onGrid? tie exponent = none ∧
      interval.holds exponent (interval.floor exponent) = false ∧
      interval.holds exponent (interval.floor exponent + 1) = false) ∨
    ∃ multiple, interval.onGrid? tie exponent = some multiple ∧
      (multiple = interval.floor exponent ∨ multiple = interval.floor exponent + 1) ∧
      interval.holds exponent multiple = true := by
  unfold onGrid?
  dsimp only
  split
  · rename_i first second
    exact .inl ⟨rfl, first, second⟩
  · rename_i first _
    exact .inr ⟨_, rfl, .inl rfl, first⟩
  · rename_i _ second
    exact .inr ⟨_, rfl, .inr rfl, second⟩
  · rename_i first second
    split
    · exact .inr ⟨_, rfl, .inl rfl, first⟩
    · split
      · exact .inr ⟨_, rfl, .inr rfl, second⟩
      · cases tie with
        | up => exact .inr ⟨_, rfl, .inr rfl, second⟩
        | even =>
          dsimp only
          split
          · exact .inr ⟨_, rfl, .inl rfl, first⟩
          · exact .inr ⟨_, rfl, .inr rfl, second⟩

theorem onGrid?_eq_none_iff : interval.onGrid? tie exponent = none ↔
    interval.holds exponent (interval.floor exponent) = false ∧
      interval.holds exponent (interval.floor exponent + 1) = false := by
  obtain ⟨none, misses⟩ | ⟨multiple, found, place, inside⟩ := onGrid?_cases interval tie exponent
  · exact iff_of_true none misses
  · refine iff_of_false (by simp [found]) ?_
    intro misses
    obtain rfl | rfl := place
    · simp [misses.1] at inside
    · simp [misses.2] at inside

private theorem holds_of_onGrid? (found : interval.onGrid? tie exponent = some multiple) :
    interval.holds exponent multiple = true := by
  obtain ⟨none, _⟩ | ⟨other, same, _, inside⟩ := onGrid?_cases interval tie exponent
  · rw [none] at found
    cases found
  · rw [same] at found
    cases found
    exact inside

/-- A number on a grid is a point of the grid in its own interval. -/
theorem isSome_onGrid?_of_value (low : interval.low < interval.value)
    (high : interval.value < interval.high)
    (value : interval.value * interval.unit exponent = multiple * interval.spacing exponent) :
    (interval.onGrid? tie exponent).isSome = true := by
  have place : interval.floor exponent = multiple := by
    rw [floor, value, Nat.mul_div_cancel _ spacing_pos]
  have lower : interval.low * interval.unit exponent < multiple * interval.spacing exponent := by
    rw [← value]
    exact Nat.mul_lt_mul_of_pos_right low unit_pos
  have upper : multiple * interval.spacing exponent < interval.high * interval.unit exponent := by
    rw [← value]
    exact Nat.mul_lt_mul_of_pos_right high unit_pos
  have inside : interval.holds exponent (interval.floor exponent) = true := by
    simp [place, holds, lower, upper, Nat.le_of_lt lower, Nat.le_of_lt upper]
  rw [Option.isSome_iff_ne_none, ne_eq, onGrid?_eq_none_iff, inside]
  simp

/-! ## Searching -/

private theorem exponent_search_congr (steps : Nat) (start : Int) :
    (interval.search tie steps start).exponent = (interval.search other steps start).exponent := by
  induction steps generalizing start with
  | zero => rfl
  | succ steps ih =>
    have same : interval.onGrid? tie start = none ↔ interval.onGrid? other start = none :=
      onGrid?_eq_none_iff.trans onGrid?_eq_none_iff.symm
    unfold search
    cases first : interval.onGrid? tie start with
    | none =>
      rw [same.mp first]
      exact ih (start - 1)
    | some multiple =>
      cases second : interval.onGrid? other start with
      | none => simp [same.mpr second] at first
      | some another => rfl

/-- A search that comes down to a grid with a point in the interval goes no further. -/
theorem exponent_search_nonneg (hit : (interval.onGrid? tie 0).isSome = true) (steps : Nat)
    {start : Int} (above : 0 ≤ start) : 0 ≤ (interval.search tie steps start).exponent := by
  induction steps generalizing start with
  | zero => exact above
  | succ steps ih =>
    unfold search
    cases found : interval.onGrid? tie start with
    | some multiple => exact above
    | none =>
      have notZero : start ≠ 0 := by
        intro zero
        rw [zero] at found
        rw [found] at hit
        cases hit
      exact ih (by omega)

private theorem exponent_search_neg
    (misses : ∀ exponent, 0 ≤ exponent → interval.onGrid? tie exponent = none)
    {steps : Nat} {start : Int} (enough : start < steps) :
    (interval.search tie steps start).exponent < 0 := by
  induction steps generalizing start with
  | zero => exact enough
  | succ steps ih =>
    unfold search
    cases found : interval.onGrid? tie start with
    | some multiple =>
      by_contra nonneg
      rw [misses start (by simpa using nonneg)] at found
      cases found
    | none => exact ih (by omega)

end RoundingInterval

/-! ## Whole numbers -/

/-- A number of a significand and a power of two is the whole number of a size. -/
def IsOfSize (significand : Nat) (exponent : Int) (size : Nat) : Prop :=
  significand * Nat.pow 2 exponent.toNat = size * Nat.pow 2 (-exponent).toNat

theorem exponent_shortest_congr (tie other : Tie) (significand : Nat) (exponent : Int) :
    (shortest tie significand exponent).exponent =
      (shortest other significand exponent).exponent := by
  unfold shortest
  split
  · rfl
  · exact RoundingInterval.exponent_search_congr _ _

section Whole

variable {tie : Tie} {significand size : Nat} {exponent : Int}

theorem RoundingInterval.isSome_onGrid?_of_isOfSize (positive : significand ≠ 0)
    (whole : IsOfSize significand exponent size) :
    ((RoundingInterval.of significand exponent).onGrid? tie 0).isSome = true := by
  have low : (RoundingInterval.of significand exponent).low < 4 * significand := by
    simp only [RoundingInterval.of]
    split <;> omega
  have value : 4 * significand * (RoundingInterval.of significand exponent).unit 0 =
      size * (RoundingInterval.of significand exponent).spacing 0 := by
    have powers : 4 * 2 ^ (exponent - 2).toNat * 2 ^ (-exponent).toNat =
        2 ^ exponent.toNat * 2 ^ (-(exponent - 2)).toNat := by
      rw [show 4 = 2 ^ 2 from rfl, ← pow_add, ← pow_add, ← pow_add]
      congr 1
      omega
    refine Nat.eq_of_mul_eq_mul_right (Nat.two_pow_pos (-exponent).toNat) ?_
    unfold IsOfSize at whole
    unfold unit spacing RoundingInterval.of
    simp only [Nat.pow_eq, Int.neg_zero, Int.toNat_zero, pow_zero, mul_one] at whole ⊢
    calc 4 * significand * 2 ^ (exponent - 2).toNat * 2 ^ (-exponent).toNat
      _ = significand * (4 * 2 ^ (exponent - 2).toNat * 2 ^ (-exponent).toNat) := by ring
      _ = significand * 2 ^ exponent.toNat * 2 ^ (-(exponent - 2)).toNat := by rw [powers]; ring
      _ = size * 2 ^ (-(exponent - 2)).toNat * 2 ^ (-exponent).toNat := by rw [whole]; ring
  exact isSome_onGrid?_of_value low (by simp [RoundingInterval.of]) value

theorem negative_of_fraction (fraction : ∀ size, ¬ IsOfSize significand exponent size) :
    exponent < 0 := by
  by_contra nonneg
  refine fraction (significand * Nat.pow 2 exponent.toNat) ?_
  have unscaled : (-exponent).toNat = 0 := by omega
  simp [IsOfSize, unscaled]

/-- The ends of the interval are so near that no other whole number lies between them. -/
theorem RoundingInterval.onGrid?_eq_none (fraction : ∀ size, ¬ IsOfSize significand exponent size)
    {power : Int} (nonneg : 0 ≤ power) :
    (RoundingInterval.of significand exponent).onGrid? tie power = none := by
  have negative := negative_of_fraction fraction
  rw [Option.eq_none_iff_forall_ne_some]
  intro multiple found
  obtain ⟨lower, upper⟩ := le_of_holds (holds_of_onGrid? found)
  have low : 4 * significand - 2 ≤ (RoundingInterval.of significand exponent).low := by
    simp only [RoundingInterval.of]
    split <;> omega
  have high : (RoundingInterval.of significand exponent).high = 4 * significand + 2 := rfl
  have one : (RoundingInterval.of significand exponent).unit power = 1 := by
    change Nat.pow 2 (exponent - 2).toNat * Nat.pow 10 (-power).toNat = 1
    rw [show (exponent - 2).toNat = 0 by omega, show (-power).toNat = 0 by omega]
  have point : multiple * (RoundingInterval.of significand exponent).spacing power =
      4 * (multiple * Nat.pow 10 power.toNat * Nat.pow 2 (-exponent).toNat) := by
    change multiple * (Nat.pow 2 (-(exponent - 2)).toNat * Nat.pow 10 power.toNat) = _
    rw [show (-(exponent - 2)).toNat = (-exponent).toNat + 2 by omega]
    simp only [Nat.pow_eq, pow_add]
    ring
  rw [one, point] at lower upper
  rw [high] at upper
  refine fraction (multiple * Nat.pow 10 power.toNat) ?_
  unfold IsOfSize
  rw [show exponent.toNat = 0 by omega]
  simp only [Nat.pow_eq, pow_zero] at lower upper ⊢
  omega

theorem exponent_shortest_nonneg (whole : IsOfSize significand exponent size) :
    0 ≤ (shortest tie significand exponent).exponent := by
  unfold shortest
  split
  · decide
  · rename_i positive
    refine RoundingInterval.exponent_search_nonneg
      (RoundingInterval.isSome_onGrid?_of_isOfSize positive whole) _ ?_
    have bits : (-exponent).toNat ≤ significand.log2 := by
      rw [Nat.le_log2 positive]
      by_cases scaled : 0 ≤ exponent
      · rw [show (-exponent).toNat = 0 by omega]
        exact Nat.pos_of_ne_zero positive
      · unfold IsOfSize at whole
        rw [show exponent.toNat = 0 by omega] at whole
        simp only [Nat.pow_eq, pow_zero, mul_one] at whole
        have some : size ≠ 0 := by
          intro zero
          rw [zero, Nat.zero_mul] at whole
          exact positive whole
        rw [whole]
        exact Nat.le_mul_of_pos_left _ (Nat.pos_of_ne_zero some)
    omega

theorem exponent_shortest_neg (small : significand < Nat.pow 2 53)
    (fraction : ∀ size, ¬ IsOfSize significand exponent size) :
    (shortest tie significand exponent).exponent < 0 := by
  unfold shortest
  split
  · rename_i zero
    exact absurd (by simp [IsOfSize, zero]) (fraction 0)
  · rename_i positive
    refine RoundingInterval.exponent_search_neg
      (fun _ => RoundingInterval.onGrid?_eq_none fraction) ?_
    have bits : significand.log2 < 53 := (Nat.log2_lt positive).mpr small
    have negative := negative_of_fraction fraction
    omega

end Whole

/-! ## Positional texts -/

theorem positionalText_mark (number : Decimal) (wholeMark : String) :
    number.positionalText wholeMark =
      number.positionalText "" ++ if 0 ≤ number.exponent then wholeMark else "" := by
  unfold positionalText
  dsimp only
  split <;> simp

private theorem filter_ne_point {digits : List Char} (valid : ∀ c ∈ digits, c.isDigit = true) :
    digits.filter (· != '.') = digits := by
  rw [List.filter_eq_self]
  intro c member
  refine bne_iff_ne.mpr ?_
  intro point
  have digit := valid c member
  rw [point] at digit
  cases digit

/-- Without its point, the text of a number with a fraction has the digits of the number. -/
theorem ofDigits_positionalText {number : Decimal} (fraction : number.exponent < 0) :
    ofDigits ((number.positionalText "").toList.filter (· != '.')) = number.coefficient := by
  have valid := (isDigits_toDigits number.coefficient).2
  have value := ofDigits_toDigits number.coefficient
  unfold positionalText
  dsimp only
  rw [if_neg (by omega)]
  generalize Nat.toDigits 10 number.coefficient = digits at valid value ⊢
  split
  · rw [String.toList_ofList, List.filter_append, List.filter_cons_of_neg (by decide),
      ← List.filter_append, List.take_append_drop, filter_ne_point valid, value]
  · rw [String.toList_ofList, List.filter_cons_of_pos (by decide),
      List.filter_cons_of_neg (by decide), List.filter_append, filter_ne_point valid,
      filter_ne_point fun _ => isDigit_of_mem_zeros]
    rw [← value, ← ofDigits_zeros_append _ digits]
    rfl

theorem positionalText_inj {first second : Decimal} (same : first.exponent = second.exponent)
    (fraction : first.exponent < 0) :
    first.positionalText "" = second.positionalText "" ↔ first = second := by
  constructor
  · intro text
    have digits := ofDigits_positionalText fraction
    rw [text, ofDigits_positionalText (same ▸ fraction)] at digits
    cases first
    cases second
    simp_all
  · intro equal
    rw [equal]

theorem point_not_mem_positionalText {number : Decimal} (whole : 0 ≤ number.exponent) :
    '.' ∉ (number.positionalText "").toList := by
  have valid := (isDigits_toDigits number.coefficient).2
  unfold positionalText
  dsimp only
  rw [if_pos whole, String.append_empty, String.toList_ofList]
  intro member
  have digit : '.'.isDigit = true := by
    obtain digit | zero := List.mem_append.mp member
    · exact valid _ digit
    · exact isDigit_of_mem_zeros zero
  cases digit

theorem isDigit_head_positionalText (number : Decimal) (wholeMark : String) :
    ∃ c rest, (number.positionalText wholeMark).toList = c :: rest ∧ c.isDigit = true := by
  obtain ⟨c, rest, first, digit⟩ : ∃ c rest, (number.positionalText "").toList = c :: rest ∧
      c.isDigit = true := by
    obtain digits | ⟨whole, fraction, digits, _, shape⟩ := positionalText_digits number
    · obtain ⟨c, rest, same⟩ := List.exists_cons_of_ne_nil digits.1
      exact ⟨c, rest, same, digits.2 c (by simp [same])⟩
    · obtain ⟨c, rest, same⟩ := List.exists_cons_of_ne_nil digits.1
      exact ⟨c, rest ++ '.' :: fraction, by simp [shape, same], digits.2 c (by simp [same])⟩
  rw [positionalText_mark]
  exact ⟨c, _, by rw [String.toList_append, first, List.cons_append], digit⟩

end UniversalQuery.Decimal

namespace UniversalQuery.Binary64

theorem significand_lt {number : Float} {negative : Bool} {significand : Nat} {exponent : Int}
    (bits : ofFloat number = .finite negative significand exponent) :
    significand < Nat.pow 2 53 := by
  have fraction : number.toBits.toNat % Nat.pow 2 52 < Nat.pow 2 52 :=
    Nat.mod_lt _ (Nat.two_pow_pos 52)
  unfold ofFloat at bits
  dsimp only at bits
  split_ifs at bits
  · cases bits
    simp only [Nat.pow_eq] at fraction ⊢
    omega
  · cases bits
    simp only [Nat.pow_eq] at fraction ⊢
    omega

end UniversalQuery.Binary64
