import UniversalQuery.Proofs.Sql.ComparisonForm
import UniversalQuery.Proofs.Sql.Meaning
import UniversalQuery.Proofs.Sql.TokenText

set_option autoImplicit false

/-! The text of a comparison is one leaf of a predicate if the names of the schema hold no blank and
no parenthesis. -/

namespace UniversalQuery

namespace Sql

variable {schema : Schema}

/-! ## Symbols of a comparison -/

private theorem all_isSolid_symbols {text : String} (blank : ' ' ∉ text.toList)
    (opening : '(' ∉ text.toList) (closing : ')' ∉ text.toList) :
    (symbols text).all Symbol.isSolid = true := by
  rw [List.all_eq_true]
  intro symbol member
  obtain ⟨c, inside, rfl⟩ := List.mem_map.mp member
  simp only [Symbol.isSolid, List.mem_cons, Symbol.plain.injEq, List.not_mem_nil, or_false,
    decide_eq_true_eq]
  rintro (rfl | rfl | rfl)
  · exact blank inside
  · exact opening inside
  · exact closing inside

theorem IsColumn.all_isSolid (plain : schema.PlainNames) {column : List Symbol}
    (form : IsColumn schema column) : column.all Symbol.isSolid = true := by
  have solidColumn : ∀ {name}, schema.HasColumn name →
      (symbols name).all Symbol.isSolid = true := fun known =>
    all_isSolid_symbols (plain.blank.column known) (plain.opening.column known)
      (plain.closing.column known)
  cases form with
  | bare known => exact solidColumn known
  | @qualified table name named known =>
    have solidTable : (symbols table).all Symbol.isSolid = true :=
      all_isSolid_symbols (plain.blank.table named) (plain.opening.table named)
        (plain.closing.table named)
    have solidDot : (symbols ".").all Symbol.isSolid = true := by decide
    simp [solidTable, solidDot, solidColumn known]

theorem IsPath.all_isSolid {path : List Symbol} (form : IsPath path) :
    path.all Symbol.isSolid = true := by
  induction form with
  | last => decide
  | step _ ih =>
    rw [List.all_append, ih]
    decide

theorem IsReference.all_isSolid (plain : schema.PlainNames) {reference : List Symbol}
    (form : IsReference schema reference) : reference.all Symbol.isSolid = true := by
  cases form with
  | column column => exact column.all_isSolid plain
  | path column path => rw [List.all_append, column.all_isSolid plain, path.all_isSolid]; rfl

theorem IsValue.all_isSolid {value : List Symbol} (form : IsValue value) :
    value.all Symbol.isSolid = true := by
  cases form with
  | literal => decide
  | @word text member =>
    simp only [List.mem_cons, List.not_mem_nil, or_false] at member
    rcases member with rfl | rfl | rfl | rfl <;> decide
  | @numeral text numeral =>
    rw [List.all_eq_true]
    intro symbol member
    obtain ⟨c, inside, rfl⟩ := List.mem_map.mp member
    have chars := numeral.chars c inside
    simp only [Symbol.isSolid, List.mem_cons, Symbol.plain.injEq, List.not_mem_nil, or_false,
      decide_eq_true_eq]
    rintro (rfl | rfl | rfl) <;> revert chars <;> decide

theorem Decimal.IsNumeral.ne_nil {text : List Char} (numeral : Decimal.IsNumeral text) :
    text ≠ [] := by
  cases numeral with
  | whole whole => exact whole.ne_nil
  | fraction => exact List.append_ne_nil_of_right_ne_nil _ (List.cons_ne_nil _ _)

/-- No operator starts at a blank before a value. -/
theorem IsValue.unbroken_blank {value : List Symbol} (form : IsValue value) :
    Unbroken (.plain ' ' :: value) := by
  have unbroken := unbroken_of_solid form.all_isSolid
  cases form with
  | literal => exact .blank (by decide) (by decide) unbroken
  | @word text member =>
    simp only [List.mem_cons, List.not_mem_nil, or_false] at member
    rcases member with rfl | rfl | rfl | rfl <;> exact .blank (by decide) (by decide) unbroken
  | @numeral text numeral =>
    cases text with
    | nil => exact absurd rfl (Decimal.IsNumeral.ne_nil numeral)
    | cons c rest =>
      have chars := numeral.chars c List.mem_cons_self
      refine .blank ?_ ?_ unbroken
      · rintro ⟨⟩
        revert chars
        decide
      · rintro ⟨⟩
        revert chars
        decide

theorem IsComparison.unbroken (plain : schema.PlainNames) {comparison : List Symbol}
    (form : IsComparison schema comparison) : Unbroken comparison := by
  cases form with
  | equality reference value =>
    refine unbroken_of_solid ?_
    rw [List.all_append, List.all_append, reference.all_isSolid plain, value.all_isSolid]
    decide
  | @bound column value sign form known operand =>
    have first := unbroken_of_solid (form.all_isSolid plain)
    have last := operand.unbroken_blank
    rw [List.append_assoc]
    refine first.append ?_
    simp only [List.mem_cons, List.not_mem_nil, or_false] at known
    rcases known with rfl | rfl | rfl | rfl
    · exact .blank (by decide) (by decide) (.other (by decide) (by decide) (by decide) last)
    · exact .blank (by decide) (by decide) (.other (by decide) (by decide) (by decide)
        (.other (by decide) (by decide) (by decide) last))
    · exact .blank (by decide) (by decide) (.other (by decide) (by decide) (by decide) last)
    · exact .blank (by decide) (by decide) (.other (by decide) (by decide) (by decide)
        (.other (by decide) (by decide) (by decide) last))
  | @containment column form =>
    have first := unbroken_of_solid (form.all_isSolid plain)
    have last : Unbroken ([.mark] ++ symbols "::jsonb") := unbroken_of_solid (by decide)
    have middle : Unbroken (symbols "::jsonb" ++ [.plain ' ', .plain '@', .plain '>', .plain ' '] ++
        ([.mark] ++ symbols "::jsonb")) := by
      rw [List.append_assoc]
      refine (unbroken_of_solid (by decide)).append ?_
      exact .blank (by decide) (by decide) (.other (by decide) (by decide) (by decide)
        (.other (by decide) (by decide) (by decide) (.blank (by decide) (by decide) last)))
    rw [List.append_assoc]
    exact first.append middle

/-! ## Starts of a comparison -/

def StartsChar (masked : List Symbol) : Prop :=
  ∃ c rest, masked = .plain c :: rest

theorem StartsChar.symbols_append {masked : List Symbol} (starts : StartsChar masked)
    (text : String) : StartsChar (symbols text ++ masked) := by
  unfold symbols
  cases text.toList with
  | nil => exact starts
  | cons c rest => exact ⟨c, _, rfl⟩

theorem IsColumn.startsChar {column tail : List Symbol} (form : IsColumn schema column)
    (starts : StartsChar tail) : StartsChar (column ++ tail) := by
  cases form with
  | bare => exact starts.symbols_append _
  | qualified =>
    rw [List.append_assoc, List.append_assoc]
    exact ((starts.symbols_append _).symbols_append _).symbols_append _

theorem IsReference.startsChar {reference tail : List Symbol}
    (form : IsReference schema reference) (starts : StartsChar tail) :
    StartsChar (reference ++ tail) := by
  cases form with
  | column column => exact column.startsChar starts
  | path column path =>
    rw [List.append_assoc]
    refine column.startsChar ?_
    cases path with
    | last => exact ⟨'-', _, rfl⟩
    | step => exact ⟨'-', _, rfl⟩

theorem IsComparison.startsChar {comparison : List Symbol}
    (form : IsComparison schema comparison) : StartsChar comparison := by
  cases form with
  | equality reference =>
    rw [List.append_assoc]
    exact reference.startsChar ⟨'=', _, rfl⟩
  | bound column known =>
    rw [List.append_assoc]
    refine column.startsChar ?_
    simp only [List.mem_cons, List.not_mem_nil, or_false] at known
    rcases known with rfl | rfl | rfl | rfl <;> exact ⟨' ', _, rfl⟩
  | containment column =>
    rw [List.append_assoc]
    exact column.startsChar ⟨':', _, rfl⟩

/-! ## Texts of comparisons -/

def Resolved (schema : Schema) (comparison : Comparison Value) : Prop :=
  (schema.fieldType? (rootField comparison.key)).isSome = true

theorem masks_comparisonText (unquoted : schema.Avoids '\'') {comparison : Comparison Value}
    (resolved : Resolved schema comparison) :
    Masks (comparisonText schema comparison) (IsComparison schema) := by
  obtain ⟨key, relation, value⟩ := comparison
  have known : schema.HasColumn (rootField key) := .inl resolved
  obtain ⟨type, typed⟩ := Option.isSome_iff_exists.mp resolved
  cases relation with
  | bound operator =>
    rw [comparisonText_bound typed]
    exact masks_boundText unquoted known _ _
  | equal =>
    cases dotted : (FieldPath.ofKey key).isPlain with
    | false =>
      rw [comparisonText_path typed dotted]
      exact masks_jsonPathText unquoted known _
    | true =>
      by_cases json : type = .json
      · rw [comparisonText_containment (json ▸ typed) dotted]
        exact masks_containmentText unquoted known _
      · rw [comparisonText_equality typed dotted json]
        exact masks_equalityText unquoted known _ _

def comparisonPieces (schema : Schema) (comparison : Comparison Value) : List Piece :=
  (scan (comparisonText schema comparison).toList).getD []

theorem comparisonPieces_form (unquoted : schema.Avoids '\'') {comparison : Comparison Value}
    (resolved : Resolved schema comparison) :
    Written (comparisonText schema comparison) (comparisonPieces schema comparison) ∧
      IsComparison schema (mask (comparisonPieces schema comparison)) := by
  obtain ⟨pieces, written, form⟩ := masks_comparisonText unquoted resolved
  have same : comparisonPieces schema comparison = pieces := by
    simp [comparisonPieces, written.scan_eq]
  exact same ▸ ⟨written, form⟩

theorem comparisonPieces_starts (unquoted : schema.Avoids '\'') {comparison : Comparison Value}
    (resolved : Resolved schema comparison) :
    comparisonPieces schema comparison ≠ [] ∧
      StartsPlain (comparisonPieces schema comparison) := by
  obtain ⟨c, rest, starts⟩ := (comparisonPieces_form unquoted resolved).2.startsChar
  constructor
  · intro empty
    rw [empty] at starts
    cases starts
  · refine startsPlain_of_mask ?_
    rw [starts]
    exact fun same => by cases same

theorem isLeaf_comparisonText (plain : schema.PlainNames) {comparison : Comparison Value}
    (resolved : Resolved schema comparison) :
    IsLeaf (comparisonText schema comparison) (comparisonPieces schema comparison) := by
  obtain ⟨written, form⟩ := comparisonPieces_form plain.quote resolved
  obtain ⟨nonempty, starts⟩ := comparisonPieces_starts plain.quote resolved
  exact ⟨written, nonempty, starts, form.unbroken plain⟩

end Sql

end UniversalQuery
