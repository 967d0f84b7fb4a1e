import UniversalQuery.Proofs.Numeral
import UniversalQuery.Proofs.PlainForm
import UniversalQuery.Proofs.Sql.QuotedText

set_option autoImplicit false

/-! The forms that a literal can take, by the type of its field and by the value it is for. -/

namespace UniversalQuery.Sql

open Decimal

/-- The texts of literals for a type. -/
inductive IsLiteral : FieldType → String → Prop where
  | null {type : FieldType} : IsLiteral type nullLiteral
  | truth {value : Bool} : IsLiteral .boolean (boolText value)
  | placeholder {type : FieldType} :
      type.isTextual = true ∨ type = .integer → IsLiteral type placeholder
  | whole {text : String} : IsWholeNumeral text.toList → IsLiteral .integer text
  | numeral {text : String} : IsNumeral text.toList → IsLiteral .decimal text
  | quoted {type : FieldType} {content : String} : IsLiteral type (quote content)

/-! ## Values and the literals they have -/

/-- Whether a floating-point number is whole. Neither infinities nor what is no number are. -/
def IsWhole (number : Float) : Prop :=
  ∃ negative significand exponent size,
    Binary64.ofFloat number = .finite negative significand exponent ∧
      significand * Nat.pow 2 exponent.toNat = size * Nat.pow 2 (-exponent).toNat

/-- Whether a value has a literal of a type other than null. -/
inductive Fits : FieldType → Value → Prop where
  | textual {type : FieldType} {value : Value} :
      type.isTextual = true → value.isTruthy = true → Fits type value
  | placeholder : Fits .integer (.string placeholder)
  | whole {number : Int} : Fits .integer (.int number)
  | wholeFloat {number : Float} : IsWhole number → Fits .integer (.float number)
  | numeral {number : Int} : Fits .decimal (.int number)
  | finite {number : Float} : number.isFinite = true → Fits .decimal (.float number)
  | truth {value : Value} : Fits .boolean value
  | instant {value : Value} {instant : Instant} :
      value.asInstant? = some instant → Fits .date value
  | json {value : Value} : Fits .json value

/-- The own text of a value. Lists and objects have that of their plain form. -/
inductive IsOwnText : Value → String → Prop where
  | null : IsOwnText .null "null"
  | truth : IsOwnText (.bool true) "true"
  | falsity : IsOwnText (.bool false) "false"
  | whole {number : Int} : IsOwnText (.int number) (intText number)
  | nan {number : Float} :
      Binary64.ofFloat number = .nan → IsOwnText (.float number) "NaN"
  | infinity {number : Float} :
      Binary64.ofFloat number = .infinite false → IsOwnText (.float number) "inf"
  | negativeInfinity {number : Float} :
      Binary64.ofFloat number = .infinite true → IsOwnText (.float number) "-inf"
  | finite {number : Float} {negative : Bool} {significand : Nat} {exponent : Int} :
      Binary64.ofFloat number = .finite negative significand exponent →
      IsOwnText (.float number)
        ((if negative then "-" else "") ++ (shortest .up significand exponent).positionalText "")
  | string {text : String} : IsOwnText (.string text) text
  | instant {instant : Instant} : IsOwnText (.date instant) instant.isoText
  | array {items : List Value} {form : Json} :
      (Value.array items).IsPlainForm form → IsOwnText (.array items) form.compact
  | object {fields : Document} {form : Json} :
      (Value.object fields).IsPlainForm form → IsOwnText (.object fields) form.compact

/-- The content of a quoted literal. -/
inductive Quotes : FieldType → Value → String → Prop where
  | own {type : FieldType} {value : Value} {text : String} :
      type.isTextual = true → IsOwnText value text → Quotes type value text
  | instant {value : Value} {instant : Instant} :
      value.asInstant? = some instant → Quotes .date value instant.isoText
  | json {value : Value} {form : Json} : value.IsPlainForm form → Quotes .json value form.compact

inductive LiteralOf : FieldType → Value → String → Prop where
  | null {type : FieldType} {value : Value} : ¬ Fits type value → LiteralOf type value nullLiteral
  | truth {value : Value} : LiteralOf .boolean value (boolText value.isTruthy)
  | placeholder {type : FieldType} : type.isTextual = true ∨ type = .integer →
      LiteralOf type (.string placeholder) placeholder
  | whole {value : Value} {text : String} :
      Fits .integer value → IsWholeNumeral text.toList → LiteralOf .integer value text
  | numeral {value : Value} {text : String} :
      Fits .decimal value → IsNumeral text.toList → LiteralOf .decimal value text
  | quoted {type : FieldType} {value : Value} {content : String} :
      Fits type value → Quotes type value content → LiteralOf type value (quote content)

theorem fits_textual_iff {type : FieldType} (textual : type.isTextual = true) {value : Value} :
    Fits type value ↔ value.isTruthy = true := by
  constructor
  · intro fits
    cases fits with
    | textual _ truthy => exact truthy
    | _ => cases textual
  · exact .textual textual

/-- Half-way cases go up, and no power of ten is written. -/
theorem text_floatLayout {number : Float} {negative : Bool} {significand : Nat} {exponent : Int}
    (bits : Binary64.ofFloat number = .finite negative significand exponent) :
    floatLayout.text number =
      (if negative then "-" else "") ++ (shortest .up significand exponent).positionalText "" := by
  simp only [Layout.text, bits, floatLayout, ↓reduceIte]
  cases negative with
  | false => simp
  | true => rfl

private theorem isOwnText_float (number : Float) :
    IsOwnText (.float number) (floatLayout.text number) := by
  cases bits : Binary64.ofFloat number with
  | nan =>
    rw [Layout.text, bits]
    exact .nan bits
  | infinite negative =>
    rw [Layout.text, bits]
    cases negative with
    | false => exact .infinity bits
    | true => exact .negativeInfinity bits
  | finite negative significand exponent =>
    rw [text_floatLayout bits]
    exact .finite bits

private theorem isOwnText_textOf (value : Value) : IsOwnText value (textOf value) := by
  cases value with
  | null => exact .null
  | bool truth =>
    cases truth with
    | true => exact .truth
    | false => exact .falsity
  | int number => exact .whole
  | float number => exact isOwnText_float number
  | string text => exact .string
  | date instant => exact .instant
  | array items => exact .array (Value.isPlainForm_toPlainJson _)
  | object fields => exact .object (Value.isPlainForm_toPlainJson _)

private theorem IsOwnText.eq_textOf {value : Value} {text : String}
    (own : IsOwnText value text) : text = textOf value := by
  cases own with
  | nan bits => rw [textOf, Layout.text, bits]; rfl
  | infinity bits => rw [textOf, Layout.text, bits]; rfl
  | negativeInfinity bits => rw [textOf, Layout.text, bits]; rfl
  | finite bits => rw [textOf, text_floatLayout bits]
  | array plain => rw [textOf, plain.eq_toPlainJson]
  | object plain => rw [textOf, plain.eq_toPlainJson]
  | _ => rfl

/-- A value has one own text. -/
theorem isOwnText_iff {value : Value} {text : String} :
    IsOwnText value text ↔ text = textOf value := by
  constructor
  · exact IsOwnText.eq_textOf
  · intro same
    rw [same]
    exact isOwnText_textOf value

private theorem fits_placeholder {type : FieldType}
    (admits : type.isTextual = true ∨ type = .integer) : Fits type (.string placeholder) := by
  rcases admits with textual | rfl
  · exact .textual textual (by decide)
  · exact .placeholder

theorem isPlaceholder_iff {value : Value} :
    isPlaceholder value = true ↔ value = .string placeholder := by
  unfold isPlaceholder
  cases value <;> simp [Value.asString?]

/-! ## Numbers -/

private theorem isNumeral_floatLayout {number : Float} (finite : number.isFinite = true) :
    IsNumeral (floatLayout.text number).toList := by
  obtain ⟨negative, significand, exponent, bits⟩ := Binary64.ofFloat_of_isFinite finite
  have positional := positionalText_digits (shortest .up significand exponent)
  rw [text_floatLayout bits]
  generalize (positionalText _ _) = size at positional ⊢
  rcases positional with digits | ⟨whole, fraction, wholeDigits, fractionDigits, shape⟩
  · cases negative with
    | false => simpa using IsNumeral.whole digits.unsigned
    | true => simpa using IsNumeral.whole (IsWholeNumeral.negative digits)
  · cases negative with
    | false => simpa [shape] using IsNumeral.fraction wholeDigits.unsigned fractionDigits
    | true =>
      simpa [shape] using IsNumeral.fraction (IsWholeNumeral.negative wholeDigits) fractionDigits

private theorem isWholeNumeral_wholeFloatText {number : Float} {text : String}
    (whole : wholeFloatText? number = some text) : IsWholeNumeral text.toList := by
  unfold wholeFloatText? at whole
  split at whole
  · obtain ⟨size, _, same⟩ := Option.map_eq_some_iff.mp whole
    subst same
    split
    · simpa using IsWholeNumeral.negative (isDigits_natText size)
    · exact (isDigits_natText size).unsigned
  · cases whole

private theorem isSome_wholeFloatText?_iff {number : Float} :
    (wholeFloatText? number).isSome = true ↔ IsWhole number := by
  unfold wholeFloatText? IsWhole
  cases bits : Binary64.ofFloat number with
  | nan => simp
  | infinite negative => simp
  | finite negative significand exponent =>
    simp only [Option.isSome_map, Option.isSome_iff_exists, Binary64.wholePart?_eq_some_iff,
      Binary64.finite.injEq]
    constructor
    · rintro ⟨size, whole⟩
      exact ⟨_, _, _, size, ⟨rfl, rfl, rfl⟩, whole⟩
    · rintro ⟨_, _, _, size, ⟨rfl, rfl, rfl⟩, whole⟩
      exact ⟨size, whole⟩

/-! ## Every literal has its form -/

private theorem literalOf_textual {type : FieldType} (textual : type.isTextual = true)
    (value : Value) : LiteralOf type value (textualLiteral value) := by
  unfold textualLiteral
  split
  · rename_i bare
    rw [isPlaceholder_iff.mp bare]
    exact .placeholder (.inl textual)
  · split
    · rename_i truthy
      exact .quoted (.textual textual truthy) (.own textual (isOwnText_iff.mpr rfl))
    · rename_i falsy
      exact .null fun fits => falsy ((fits_textual_iff textual).mp fits)

private theorem literalOf_integer (value : Value) :
    LiteralOf .integer value (integerLiteral value) := by
  unfold integerLiteral
  split
  · rename_i bare
    rw [isPlaceholder_iff.mp bare]
    exact .placeholder (.inr rfl)
  · rename_i unbound
    rw [isPlaceholder_iff] at unbound
    split
    · exact .whole .whole (isWholeNumeral_intText _)
    · rename_i number
      have whole := @isSome_wholeFloatText?_iff number
      cases text : wholeFloatText? number with
      | none =>
        rw [text] at whole
        refine .null fun fits => ?_
        cases fits with
        | textual integer => cases integer
        | wholeFloat fits => cases whole.mpr fits
      | some digits =>
        rw [text] at whole
        exact .whole (.wholeFloat (whole.mp rfl)) (isWholeNumeral_wholeFloatText text)
    · rename_i unwhole unfloat
      refine .null fun fits => ?_
      cases fits with
      | textual integer => cases integer
      | placeholder => exact unbound rfl
      | whole => exact unwhole _ rfl
      | wholeFloat => exact unfloat _ rfl

private theorem literalOf_decimal (value : Value) :
    LiteralOf .decimal value (decimalLiteral value) := by
  unfold decimalLiteral
  split
  · exact .numeral .numeral (.whole (isWholeNumeral_intText _))
  · split
    · rename_i finite
      exact .numeral (.finite finite) (isNumeral_floatLayout finite)
    · rename_i infinite
      refine .null fun fits => ?_
      cases fits with
      | textual decimal => cases decimal
      | finite finite => exact infinite finite
  · rename_i unwhole unfloat
    refine .null fun fits => ?_
    cases fits with
    | textual decimal => cases decimal
    | numeral => exact unwhole _ rfl
    | finite => exact unfloat _ rfl

private theorem literalOf_date (value : Value) : LiteralOf .date value (dateLiteral value) := by
  unfold dateLiteral
  split
  · rename_i dated
    exact .quoted (.instant dated) (.instant dated)
  · rename_i undated
    refine .null fun fits => ?_
    cases fits with
    | textual date => cases date
    | instant dated =>
      rw [undated] at dated
      cases dated

theorem literalOf_literal (type : FieldType) (value : Value) :
    LiteralOf type value (literal type value) := by
  cases type with
  | string => exact literalOf_textual rfl value
  | text => exact literalOf_textual rfl value
  | uuid => exact literalOf_textual rfl value
  | integer => exact literalOf_integer value
  | decimal => exact literalOf_decimal value
  | boolean => exact .truth
  | json => exact .quoted .json (.json (Value.isPlainForm_iff.mpr rfl))
  | date => exact literalOf_date value

theorem isLiteral_literal (type : FieldType) (value : Value) :
    IsLiteral type (literal type value) := by
  have form := literalOf_literal type value
  generalize literal type value = text at form
  cases form with
  | null => exact .null
  | truth => exact .truth
  | placeholder admits => exact .placeholder admits
  | whole _ numeral => exact .whole numeral
  | numeral _ numeral => exact .numeral numeral
  | quoted => exact .quoted

/-! ## What a literal tells of its value -/

private theorem ne_nullLiteral_of_isNumeral {text : String} (numeral : IsNumeral text.toList) :
    text ≠ nullLiteral := by
  rintro rfl
  exact absurd (numeral.chars 'n' (by decide)) (by decide)

private theorem ne_placeholder_of_isNumeral {text : String} (numeral : IsNumeral text.toList) :
    text ≠ placeholder := by
  rintro rfl
  exact absurd (numeral.chars '\x7b' (by decide)) (by decide)

namespace LiteralOf

variable {type : FieldType} {value : Value} {text : String}

theorem eq_nullLiteral_iff (form : LiteralOf type value text) :
    text = nullLiteral ↔ ¬ Fits type value := by
  cases form with
  | null unfit => exact iff_of_true rfl unfit
  | truth =>
    refine iff_of_false ?_ fun unfit => unfit .truth
    cases value.isTruthy <;> decide
  | placeholder admits =>
    exact iff_of_false (by decide) fun unfit => unfit (fits_placeholder admits)
  | whole fits numeral =>
    exact iff_of_false (ne_nullLiteral_of_isNumeral (.whole numeral)) fun unfit => unfit fits
  | numeral fits numeral =>
    exact iff_of_false (ne_nullLiteral_of_isNumeral numeral) fun unfit => unfit fits
  | quoted fits _ =>
    exact iff_of_false (ne_quote_of_unquoted (by decide) _).symm fun unfit => unfit fits

theorem of_placeholder (form : LiteralOf type value text) (bare : text = Sql.placeholder) :
    value = .string Sql.placeholder ∧ (type.isTextual = true ∨ type = .integer) := by
  cases form with
  | null => exact absurd bare (by decide)
  | truth =>
    refine absurd bare ?_
    cases value.isTruthy <;> decide
  | placeholder admits => exact ⟨rfl, admits⟩
  | whole _ numeral => exact absurd bare (ne_placeholder_of_isNumeral (.whole numeral))
  | numeral _ numeral => exact absurd bare (ne_placeholder_of_isNumeral numeral)
  | quoted => exact absurd bare.symm (ne_quote_of_unquoted (by decide) _)

theorem quotes {content : String} (form : LiteralOf type value text) (same : text = quote content) :
    Quotes type value content := by
  cases form with
  | null => exact absurd same (ne_quote_of_unquoted (by decide) content)
  | truth =>
    refine absurd same (ne_quote_of_unquoted ?_ content)
    cases value.isTruthy <;> decide
  | placeholder => exact absurd same (ne_quote_of_unquoted (by decide) content)
  | whole _ numeral =>
    exact absurd same (ne_quote_of_unquoted (IsNumeral.whole numeral).unquoted content)
  | numeral _ numeral => exact absurd same (ne_quote_of_unquoted numeral.unquoted content)
  | quoted _ quoted => exact quote_inj.mp same ▸ quoted

end LiteralOf

/-- A literal is null, a truth value, a numeral, the placeholder or quoted text, as its type allows.
It is null just if the value does not fit the type. What a quoted literal holds is read back
whatever follows it, unless a quote does. -/
theorem literal_form (type : FieldType) (value : Value) :
    LiteralOf type value (literal type value) ∧
      (literal type value = nullLiteral ↔ ¬ Fits type value) ∧
      (type.isTextual = true → (literal type value = nullLiteral ↔ value.isTruthy = false)) ∧
      (literal type value = placeholder →
        value = .string placeholder ∧ (type.isTextual = true ∨ type = .integer)) ∧
      (∀ content, literal type value = quote content → Quotes type value content) ∧
      ∀ (content : String) (rest : List Char), rest.head? ≠ some '\'' →
        readLiteral? ((quote content).toList ++ rest) = some (content, rest) := by
  have form := literalOf_literal type value
  refine ⟨form, form.eq_nullLiteral_iff, fun textual => ?_, form.of_placeholder,
    fun content => form.quotes, readLiteral?_quote⟩
  rw [form.eq_nullLiteral_iff, fits_textual_iff textual, Bool.not_eq_true]

theorem literal_form_apostrophe :
    literal .text (.string "O'Neil") = quote "O'Neil" ∧
      literal .text (.string "O'Neil") ≠ nullLiteral ∧
      Quotes .text (.string "O'Neil") "O'Neil" ∧
      readLiteral? ((quote "O'Neil").toList ++ ", 'Jon'".toList) =
        some ("O'Neil", ", 'Jon'".toList) ∧
      literal .integer (.string placeholder) = placeholder ∧
      (FieldType.integer.isTextual = true ∨ FieldType.integer = .integer) := by
  have same : literal .text (.string "O'Neil") = quote "O'Neil" := by decide
  have bare : literal .integer (.string placeholder) = placeholder := by decide
  obtain ⟨_, _, empty, _, quoted, read⟩ := literal_form .text (.string "O'Neil")
  obtain ⟨_, _, _, bound, _⟩ := literal_form .integer (.string placeholder)
  refine ⟨same, fun null => ?_, quoted _ same, read _ _ (by decide), bare, (bound bare).2⟩
  exact absurd ((empty rfl).mp null) (by decide)

end UniversalQuery.Sql
