import UniversalQuery.Decimal.Layout

set_option autoImplicit false

/-! Numerals: digits after an optional sign, with or without a fraction. Whole numbers and finite
floating-point numbers in positional layout are written as numerals. -/

namespace UniversalQuery

namespace Decimal

/-- At least one digit and nothing else. -/
def IsDigits (text : List Char) : Prop :=
  text ≠ [] ∧ ∀ c ∈ text, c.isDigit = true

def IsSign (text : List Char) : Prop :=
  text = [] ∨ text = ['-']

inductive IsWholeNumeral : List Char → Prop where
  | intro {sign digits : List Char} :
      IsSign sign → IsDigits digits → IsWholeNumeral (sign ++ digits)

inductive IsNumeral : List Char → Prop where
  | whole {text : List Char} : IsWholeNumeral text → IsNumeral text
  | fraction {text digits : List Char} :
      IsWholeNumeral text → IsDigits digits → IsNumeral (text ++ '.' :: digits)

theorem IsDigits.append {left right : List Char} (first : IsDigits left)
    (second : ∀ c ∈ right, c.isDigit = true) : IsDigits (left ++ right) := by
  refine ⟨fun nothing => first.1 (List.append_eq_nil_iff.mp nothing).1, fun c member => ?_⟩
  rcases List.mem_append.mp member with inLeft | inRight
  · exact first.2 c inLeft
  · exact second c inRight

theorem IsDigits.unsigned {digits : List Char} (valid : IsDigits digits) :
    IsWholeNumeral digits :=
  @IsWholeNumeral.intro [] digits (.inl rfl) valid

theorem IsWholeNumeral.negative {digits : List Char} (valid : IsDigits digits) :
    IsWholeNumeral ('-' :: digits) :=
  @IsWholeNumeral.intro ['-'] digits (.inr rfl) valid

theorem isDigits_toDigits (n : Nat) : IsDigits (Nat.toDigits 10 n) :=
  ⟨Nat.toDigits_ne_nil, fun _ member =>
    Nat.isDigit_of_mem_toDigits (by decide) (by decide) member⟩

theorem isDigits_natText (n : Nat) : IsDigits (natText n).toList := by
  simpa [natText] using isDigits_toDigits n

theorem isWholeNumeral_intText (n : Int) : IsWholeNumeral (intText n).toList := by
  unfold intText
  split
  · simpa using IsWholeNumeral.negative (isDigits_natText n.natAbs)
  · exact (isDigits_natText n.natAbs).unsigned

theorem IsWholeNumeral.chars {text : List Char} (numeral : IsWholeNumeral text) :
    ∀ c ∈ text, c.isDigit = true ∨ c = '-' := by
  obtain ⟨sign, digits⟩ := numeral
  intro c member
  rcases List.mem_append.mp member with inSign | inDigits
  · rcases sign with rfl | rfl
    · cases inSign
    · exact .inr (List.mem_singleton.mp inSign)
  · exact .inl (digits.2 c inDigits)

theorem IsWholeNumeral.ne_nil {text : List Char} (numeral : IsWholeNumeral text) : text ≠ [] := by
  obtain ⟨_, digits⟩ := numeral
  exact List.append_ne_nil_of_right_ne_nil _ digits.1

theorem IsNumeral.chars {text : List Char} (numeral : IsNumeral text) :
    ∀ c ∈ text, c.isDigit = true ∨ c = '-' ∨ c = '.' := by
  intro c member
  cases numeral with
  | whole whole =>
    rcases whole.chars c member with digit | sign
    · exact .inl digit
    · exact .inr (.inl sign)
  | fraction whole digits =>
    rcases List.mem_append.mp member with inWhole | inFraction
    · rcases whole.chars c inWhole with digit | sign
      · exact .inl digit
      · exact .inr (.inl sign)
    · rcases List.mem_cons.mp inFraction with point | inDigits
      · exact .inr (.inr point)
      · exact .inl (digits.2 c inDigits)

theorem IsNumeral.unquoted {text : List Char} (numeral : IsNumeral text) :
    '\'' ∉ text := by
  intro member
  have chars := numeral.chars _ member
  revert chars
  decide

theorem IsDigits.take {digits : List Char} (valid : IsDigits digits) {count : Nat}
    (positive : 0 < count) : IsDigits (digits.take count) := by
  refine ⟨?_, fun c member => valid.2 c (List.mem_of_mem_take member)⟩
  rw [ne_eq, List.take_eq_nil_iff, not_or]
  exact ⟨Nat.ne_of_gt positive, valid.1⟩

theorem IsDigits.drop {digits : List Char} (valid : IsDigits digits) {count : Nat}
    (short : count < digits.length) : IsDigits (digits.drop count) := by
  refine ⟨?_, fun c member => valid.2 c (List.mem_of_mem_drop member)⟩
  rw [ne_eq, List.drop_eq_nil_iff]
  omega

theorem isDigit_of_mem_zeros {count : Nat} {c : Char} (member : c ∈ List.replicate count '0') :
    c.isDigit = true := by
  rw [List.eq_of_mem_replicate member]
  decide

/-- Digits in their places: all before the point, some on either side of it, or all after it. -/
theorem positionalText_digits (number : Decimal) :
    IsDigits (number.positionalText "").toList ∨
      ∃ whole fraction, IsDigits whole ∧ IsDigits fraction ∧
        (number.positionalText "").toList = whole ++ '.' :: fraction := by
  have valid := isDigits_toDigits number.coefficient
  unfold positionalText
  generalize Nat.toDigits 10 number.coefficient = digits at valid
  dsimp only
  split
  · refine .inl ?_
    rw [String.append_empty, String.toList_ofList]
    exact valid.append fun _ => isDigit_of_mem_zeros
  · rename_i negative
    have places : 0 < (-number.exponent).toNat := by omega
    refine .inr ?_
    split
    · rename_i short
      refine ⟨_, _, valid.take ?_, valid.drop ?_, String.toList_ofList⟩
      · omega
      · omega
    · refine ⟨['0'], _, ⟨by simp, by simp⟩, ⟨?_, fun c member => ?_⟩, String.toList_ofList⟩
      · exact fun nothing => valid.1 (List.append_eq_nil_iff.mp nothing).2
      · rcases List.mem_append.mp member with zero | digit
        · exact isDigit_of_mem_zeros zero
        · exact valid.2 c digit

end Decimal

namespace Binary64

open Float.Model

private theorem toNat_unpackExponent (number : Float) :
    (@UnpackedFloat.unpackExponent Format.binary64 number.toModel.toBits.toBitVec).toNat =
      number.toBits.toNat / Nat.pow 2 52 % Nat.pow 2 11 := by
  unfold UnpackedFloat.unpackExponent Float.toBits
  rw [BitVec.toNat_cast, BitVec.extractLsb_toNat, Nat.shiftRight_eq_div_pow]
  rfl

/-- An exponent of ones only is left to the infinities and to what is no number. -/
private theorem isFinite_unpack {format : Format} {bits : BitVec format.numBits}
    (ones : UnpackedFloat.unpackExponent bits = -1#_) :
    (UnpackedFloat.unpack format bits).isFinite = false := by
  unfold UnpackedFloat.unpack
  dsimp only
  rw [if_pos ones]
  split
  · rfl
  · rfl

/-- The bits of a finite number stand for a finite number. -/
theorem ofFloat_of_isFinite {number : Float} (finite : number.isFinite = true) :
    ∃ negative significand exponent,
      ofFloat number = .finite negative significand exponent := by
  have biased : number.toBits.toNat / Nat.pow 2 52 % Nat.pow 2 11 ≠ 2047 := by
    intro full
    rw [← toNat_unpackExponent] at full
    have ones : @UnpackedFloat.unpackExponent Format.binary64
        number.toModel.toBits.toBitVec = -1#_ := BitVec.eq_of_toNat_eq (by rw [full]; rfl)
    exact Bool.false_ne_true ((isFinite_unpack ones).symm.trans finite)
  unfold ofFloat
  dsimp only
  rw [if_neg biased]
  split
  · exact ⟨_, _, _, rfl⟩
  · exact ⟨_, _, _, rfl⟩

end Binary64

end UniversalQuery
