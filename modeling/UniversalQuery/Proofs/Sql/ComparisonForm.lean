import UniversalQuery.Proofs.Sql.Grammar
import UniversalQuery.Proofs.Sql.LiteralForm

set_option autoImplicit false

/-! Literals, references and comparisons have the forms of the grammar if no name of the schema
holds a quote. -/

namespace UniversalQuery

open Decimal

namespace Sql

theorem masks_quoted (content : String) : Masks (quote content) IsValue := by
  refine (Masks.quote content).mono ?_
  rintro _ rfl
  exact .literal

theorem masks_literal (type : FieldType) (value : Value) :
    Masks (literal type value) IsValue := by
  have form := isLiteral_literal type value
  generalize literal type value = text at form
  cases form with
  | null => exact .plain (by decide) (.word (by decide))
  | @truth truth => cases truth <;> exact .plain (by decide) (.word (by decide))
  | placeholder => exact .plain (by decide) (.word (by decide))
  | whole numeral => exact .plain (IsNumeral.whole numeral).unquoted (.numeral (.whole numeral))
  | numeral numeral => exact .plain numeral.unquoted (.numeral numeral)
  | quoted => exact masks_quoted _

theorem masks_jsonLiteral (value : Value) : Masks (jsonLiteral value) (· = [.mark]) :=
  .quote _

variable {schema : Schema}

/-- A reference to a column is text without quotes. -/
theorem columnReference_form (unquoted : schema.Avoids '\'') {field : String}
    (known : schema.HasColumn field) :
    '\'' ∉ (columnReference schema field).toList ∧
      IsColumn schema (symbols (columnReference schema field)) := by
  have bare := unquoted.column known
  unfold columnReference
  split
  · rename_i table owner
    have named : schema.HasTable table := .inr ⟨field, owner⟩
    split
    · refine ⟨?_, by simpa using IsColumn.qualified named known⟩
      simp [bare, unquoted.table named]
    · exact ⟨bare, .bare known⟩
  · exact ⟨bare, .bare known⟩

theorem masks_columnReference (unquoted : schema.Avoids '\'') {field : String}
    (known : schema.HasColumn field) : Masks (columnReference schema field) (IsColumn schema) :=
  have form := columnReference_form unquoted known
  .plain form.1 form.2

theorem IsPath.head? {path : List Symbol} (steps : IsPath path) : path.head? ≠ some .mark := by
  cases steps with
  | last => decide
  | step => simp [symbols]

theorem masks_pathSteps {segments : List String} (dotted : segments ≠ []) :
    Masks (pathSteps segments) IsPath := by
  induction segments with
  | nil => exact absurd rfl dotted
  | cons segment rest ih =>
    cases rest with
    | nil =>
      refine .before (by decide) (Masks.quote segment) ?_
      rintro _ rfl
      exact .last
    | cons next rest =>
      have head : Masks ("->" ++ quote segment) (· = symbols "->" ++ [.mark]) := by
        refine .before (by decide) (Masks.quote segment) ?_
        rintro _ rfl
        rfl
      refine head.append (ih (List.cons_ne_nil _ _)) (fun _ => IsPath.head?) ?_
      rintro _ path rfl steps
      exact .step steps

theorem masks_reference (unquoted : schema.Avoids '\'') {path : FieldPath}
    (known : schema.HasColumn path.root) :
    Masks (reference schema path) (IsReference schema) := by
  have column := columnReference_form unquoted known
  unfold reference
  cases segments : path.segments with
  | nil => simpa [pathSteps] using Masks.plain column.1 (.column column.2)
  | cons segment rest =>
    exact .before column.1 (masks_pathSteps (List.cons_ne_nil _ _)) fun _ => .path column.2

theorem masks_equalityText (unquoted : schema.Avoids '\'') {field : String}
    (known : schema.HasColumn field) (type : FieldType) (value : Value) :
    Masks (equalityText schema field type value) (IsComparison schema) :=
  (masks_columnReference unquoted known).between (masks_literal type value) (by decide) (by decide)
    fun _ _ column value => .equality (.column column) value

theorem masks_boundText (unquoted : schema.Avoids '\'') {field : String}
    (known : schema.HasColumn field) (type : FieldType) (bound : ComparisonOperator × Value) :
    Masks (boundText schema field type bound) (IsComparison schema) := by
  have column := masks_columnReference unquoted known
  have value := masks_literal type bound.2
  have sign : " " ++ comparisonSymbol bound.1 ++ " " ∈ [" > ", " >= ", " < ", " <= "] := by
    cases bound.1 <;> decide
  have whole : boundText schema field type bound = columnReference schema field ++
      (" " ++ comparisonSymbol bound.1 ++ " ") ++ literal type bound.2 := by
    simp [boundText, String.append_assoc]
  rw [whole]
  refine column.between value ?_ ?_ fun _ _ column value => .bound column sign value
  · cases bound.1 <;> decide
  · cases bound.1 <;> decide

theorem masks_jsonPathText (unquoted : schema.Avoids '\'') {path : FieldPath}
    (known : schema.HasColumn path.root) (value : Value) :
    Masks (jsonPathText schema path value) (IsComparison schema) :=
  (masks_reference unquoted known).between (masks_quoted (textOf value)) (by decide)
    (by decide) fun _ _ => .equality

theorem masks_containmentText (unquoted : schema.Avoids '\'') {field : String}
    (known : schema.HasColumn field) (value : Value) :
    Masks (containmentText schema field value) (IsComparison schema) := by
  have column := masks_columnReference unquoted known
  have value : Masks (jsonLiteral value ++ "::jsonb") (· = [.mark] ++ symbols "::jsonb") := by
    refine (masks_jsonLiteral value).after (by decide) ?_
    rintro _ rfl
    rfl
  unfold containmentText
  rw [String.append_assoc]
  refine column.between value (by decide) (by decide) ?_
  rintro masked _ column rfl
  exact .containment column

end Sql

end UniversalQuery
