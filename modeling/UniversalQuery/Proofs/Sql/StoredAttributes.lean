import UniversalQuery.Proofs.Json.WrittenText
import UniversalQuery.Proofs.ShortestDecimal
import UniversalQuery.Proofs.Sql.AttributePath
import UniversalQuery.Proofs.Sql.LiteralForm

set_option autoImplicit false

/-! Finding stored attributes again. A JSON column holds the compact text of a value, and a
condition on a path compares the text that is read out of the column with the text of a value in
SQL. For numbers these are two layouts, which agree on some numbers only. -/

namespace UniversalQuery.Sql

open Decimal

/-- The text that `->>` yields for a stored scalar: the content of a string, nothing for null, and
any other text as it was written. -/
def attributeText? (stored : String) : Option String :=
  match stored.toList with
  | '"' :: text =>
    match Json.readString text with
    | some (units, []) => Json.StringUnit.text? units
    | _ => none
  | _ => if stored = nullLiteral then none else some stored

/-- A scalar whose stored text has no power of ten. -/
inductive IsPlainScalar : Value → Prop where
  | bool {truth : Bool} : IsPlainScalar (.bool truth)
  | int {number : Int} : IsPlainScalar (.int number)
  | string {text : String} : IsPlainScalar (.string text)
  | date {instant : Instant} : IsPlainScalar (.date instant)
  | float {number : Float} :
      number.isFinite = true → 'e' ∉ (Json.float number).compact.toList →
      IsPlainScalar (.float number)

/-- Both rules for ties give the number the same shortest decimal. -/
def TiesAgree (number : Float) : Prop :=
  ∀ negative significand exponent,
    Binary64.ofFloat number = .finite negative significand exponent →
      shortest .even significand exponent = shortest .up significand exponent

/-! ## Reading -/

theorem attributeText?_string (text : String) :
    attributeText? (Json.string text).compact = some text := by
  have shape : (Json.string text).compact.toList =
      '"' :: (text.toList.flatMap Json.escapedChar ++ ['"']) := by
    simp [Json.compact, Json.compactChars, Json.scalarChars, Json.quotedChars]
  unfold attributeText?
  simp only [shape, Json.readString_written, Json.text?_unitOf]

theorem attributeText?_bare {stored : String} {c : Char} {rest : List Char}
    (first : stored.toList = c :: rest) (noString : c ≠ '"') (noNull : c ≠ 'n') :
    attributeText? stored = some stored := by
  have given : stored ≠ nullLiteral := by
    intro same
    rw [same] at first
    cases first
    exact noNull rfl
  unfold attributeText?
  split
  · rename_i same
    rw [first] at same
    cases same
    exact absurd rfl noString
  · rw [if_neg given]

/-- A number is read as it was written. -/
theorem attributeText?_number {stored : String} {c : Char} {rest : List Char}
    (first : stored.toList = c :: rest) (starts : c.isDigit = true ∨ c = '-') :
    attributeText? stored = some stored := by
  refine attributeText?_bare first ?_ ?_
  · intro same
    rw [same] at starts
    revert starts
    decide
  · intro same
    rw [same] at starts
    revert starts
    decide

/-! ## Numbers -/

private theorem compact_int (number : Int) : (Json.int number).compact = intText number := by
  simp [Json.compact, Json.compactChars, Json.scalarChars]

theorem attributeText?_int (number : Int) :
    attributeText? (Json.int number).compact = some (intText number) := by
  have numeral := isWholeNumeral_intText number
  obtain ⟨c, rest, first⟩ := List.exists_cons_of_ne_nil numeral.ne_nil
  rw [compact_int]
  exact attributeText?_number first (numeral.chars c (by simp [first]))

theorem compact_float (number : Float) :
    (Json.float number).compact = Json.floatLayout.text number := by
  simp [Json.compact, Json.compactChars, Json.scalarChars]

section Floats

variable {number : Float} {negative : Bool} {significand : Nat} {exponent : Int}

theorem isWhole_iff (bits : Binary64.ofFloat number = .finite negative significand exponent) :
    IsWhole number ↔ ∃ size, IsOfSize significand exponent size := by
  unfold IsWhole IsOfSize
  constructor
  · intro whole
    obtain ⟨_, _, _, size, same, whole⟩ := whole
    rw [bits] at same
    cases same
    exact ⟨size, whole⟩
  · intro whole
    obtain ⟨size, whole⟩ := whole
    exact ⟨_, _, _, size, bits, whole⟩

theorem tiesAgree_iff
    (bits : Binary64.ofFloat number = .finite negative significand exponent) :
    TiesAgree number ↔
      shortest .even significand exponent = shortest .up significand exponent := by
  unfold TiesAgree
  constructor
  · intro one
    exact one _ _ _ bits
  · intro one _ _ _ same
    rw [bits] at same
    cases same
    exact one

private theorem text_layout (layout : Layout)
    (bits : Binary64.ofFloat number = .finite negative significand exponent) :
    layout.text number =
      (if negative then "-" else "") ++
        if layout.positional (shortest layout.tie significand exponent).leadingExponent then
          (shortest layout.tie significand exponent).positionalText layout.wholeMark
        else (shortest layout.tie significand exponent).scientificText := by
  simp only [Layout.text, bits]
  cases negative with
  | false => simp
  | true => rfl

private theorem power_mem_scientificText (size : Decimal) : 'e' ∈ size.scientificText.toList := by
  have power : 'e' ∈ (if size.leadingExponent < 0 then "e-" else "e+").toList := by
    split <;> decide
  simp [scientificText, power]

theorem text_jsonLayout (bits : Binary64.ofFloat number = .finite negative significand exponent)
    (plain : 'e' ∉ (Json.floatLayout.text number).toList) :
    Json.floatLayout.text number = (if negative then "-" else "") ++
      (shortest .even significand exponent).positionalText ".0" := by
  have tie : Json.floatLayout.tie = .even := rfl
  have wholeMark : Json.floatLayout.wholeMark = ".0" := rfl
  rw [text_layout _ bits, tie, wholeMark] at plain ⊢
  by_cases positional :
      Json.floatLayout.positional (shortest .even significand exponent).leadingExponent = true
  · rw [if_pos positional]
  · rw [if_neg positional, String.toList_append, List.mem_append, not_or] at plain
    exact absurd (power_mem_scientificText _) plain.2

theorem attributeText?_float (finite : number.isFinite = true)
    (plain : 'e' ∉ (Json.floatLayout.text number).toList) :
    attributeText? (Json.floatLayout.text number) = some (Json.floatLayout.text number) := by
  obtain ⟨negative, significand, exponent, bits⟩ := Binary64.ofFloat_of_isFinite finite
  obtain ⟨c, rest, first, digit⟩ :=
    isDigit_head_positionalText (shortest .even significand exponent) ".0"
  rw [text_jsonLayout bits plain]
  cases negative with
  | false => exact attributeText?_number (by simpa using first) (.inl digit)
  | true =>
    have signed : ("-" ++ (shortest .even significand exponent).positionalText ".0").toList =
        '-' :: c :: rest := by
      simp [first]
    exact attributeText?_number signed (.inr rfl)

/-- The two layouts agree on what is not whole, as far as their rules for ties do. -/
theorem text_layouts_eq_iff (finite : number.isFinite = true)
    (plain : 'e' ∉ (Json.floatLayout.text number).toList) :
    Json.floatLayout.text number = floatLayout.text number ↔
      ¬ IsWhole number ∧ TiesAgree number := by
  obtain ⟨negative, significand, exponent, bits⟩ := Binary64.ofFloat_of_isFinite finite
  have power := exponent_shortest_congr .even .up significand exponent
  rw [text_jsonLayout bits plain, text_floatLayout bits, String.append_right_inj, isWhole_iff bits,
    tiesAgree_iff bits, positionalText_mark]
  by_cases whole : ∃ size, IsOfSize significand exponent size
  · -- The point of the stored text is not in the other one.
    refine iff_of_false ?_ (fun apart => apart.1 whole)
    obtain ⟨size, whole⟩ := whole
    have noPoint : '.' ∉ ((shortest .up significand exponent).positionalText "").toList :=
      point_not_mem_positionalText (exponent_shortest_nonneg whole)
    intro same
    rw [← same, if_pos (exponent_shortest_nonneg whole)] at noPoint
    simp at noPoint
  · have fraction : (shortest .even significand exponent).exponent < 0 :=
      exponent_shortest_neg (Binary64.significand_lt bits) (not_exists.mp whole)
    rw [if_neg (by omega), String.append_empty, positionalText_inj power fraction]
    exact (and_iff_right whole).symm

end Floats

/-! ## Attributes -/

/-- A stored scalar is found by the condition for the same value, except for floating-point numbers
that are whole or that the two rules for ties write with different digits. -/
theorem stored_attribute_found_iff {schema : Schema} {policy : UnknownFields} {key : String}
    {value : Value} (dotted : (FieldPath.ofKey key).isPlain = false)
    (json : schema.fieldType? (rootField key) = some .json) (scalar : IsPlainScalar value) :
    ∃ compared stored,
      predicateText schema policy [(key, value)] =
        .ok (reference schema (FieldPath.ofKey key) ++ "=" ++ quote compared) ∧
      literal .json value = quote stored ∧
      (attributeText? stored = some compared ↔
        ∀ number, value = .float number → ¬ IsWhole number ∧ TiesAgree number) := by
  refine ⟨textOf value, value.toPlainJson.compact, ?_, rfl, ?_⟩
  · exact predicateText_path value rfl dotted (by rw [← rootField, json]; rfl)
  cases scalar with
  | @bool truth =>
    refine iff_of_true ?_ (by simp)
    cases truth with
    | false => exact attributeText?_bare rfl (by decide) (by decide)
    | true => exact attributeText?_bare rfl (by decide) (by decide)
  | int => exact iff_of_true (attributeText?_int _) (by simp)
  | string => exact iff_of_true (attributeText?_string _) (by simp)
  | date => exact iff_of_true (attributeText?_string _) (by simp)
  | @float number finite plain =>
    have written : (Value.float number).toPlainJson.compact = Json.floatLayout.text number := by
      rw [Value.toPlainJson, Value.floatToJson, if_pos finite, compact_float]
    rw [compact_float] at plain
    rw [written, attributeText?_float finite plain, Option.some_inj, textOf,
      text_layouts_eq_iff finite plain]
    simp

theorem stored_attribute_found_iff_level :
    ∃ compared stored,
      predicateText people.schema .reject [("job.level", .float 1.5)] =
        .ok (reference people.schema (FieldPath.ofKey "job.level") ++ "=" ++ quote compared) ∧
      literal .json (.float 1.5) = quote stored ∧
      (attributeText? stored = some compared ↔
        ∀ number, .float 1.5 = Value.float number → ¬ IsWhole number ∧ TiesAgree number) :=
  stored_attribute_found_iff (by decide) (by decide)
    (.float (by decide +kernel) (by decide +kernel))

/-- The number one is stored with a fraction and compared without one. -/
theorem stored_one_not_found :
    IsPlainScalar (.float 1) ∧
      predicateText people.schema .reject [("job.level", .float 1)] =
        .ok ("job->>'level'=" ++ quote "1") ∧
      literal .json (.float 1) = quote "1.0" ∧
      attributeText? "1.0" ≠ some "1" :=
  ⟨.float (by decide +kernel) (by decide +kernel), by decide +kernel, by decide +kernel,
    by decide +kernel⟩

end UniversalQuery.Sql
