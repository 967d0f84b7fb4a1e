import UniversalQuery.Proofs.Sql.StatementForm

set_option autoImplicit false

/-! Reading path operators. An operator behind a literal goes on with a path; any other one is
applied to what stands before it, back to the last blank or parenthesis. In a comparison this is the
reference to the column of its key. -/

namespace UniversalQuery.Sql

open Formula

/-! ## Reading -/

/-- What the path operators of a text are applied to, in order. The characters before the present
place are held backwards, unless a literal has just ended. -/
def operandsFrom (held : Option (List Char)) : List Symbol → List String
  | [] => []
  | .mark :: rest => operandsFrom none rest
  | .plain c :: rest =>
    if c = '-' ∧ rest.head? = some (.plain '>') then
      (held.map fun chars => String.ofList chars.reverse).toList ++ operandsFrom (some []) rest
    else if c = ' ' ∨ c = '(' ∨ c = ')' then operandsFrom (some []) rest
    else operandsFrom (some (c :: held.getD [])) rest

def pathOperands (masked : List Symbol) : List String :=
  operandsFrom (some []) masked

/-- What is held behind a symbol at which a text can be cut, if it is one. -/
def cutAt? : Symbol → Option (Option (List Char))
  | .mark => some none
  | .plain c => if c = ' ' ∨ c = '(' ∨ c = ')' then some (some []) else none

/-- A blank, a parenthesis or a literal is never part of an operator, so both sides of it are read
apart. -/
theorem operandsFrom_append_cons {symbol : Symbol} {after : Option (List Char)}
    (cut : cutAt? symbol = some after) (held : Option (List Char)) (left right : List Symbol) :
    operandsFrom held (left ++ symbol :: right) =
      operandsFrom held left ++ operandsFrom after right := by
  induction left generalizing held with
  | nil =>
    cases symbol with
    | mark =>
      cases cut
      rfl
    | plain c =>
      simp only [cutAt?] at cut
      split at cut
      · rename_i solid
        cases cut
        have noArrow : ¬ c = '-' := by
          intro same
          subst same
          revert solid
          decide
        simp [operandsFrom, noArrow, solid]
      · cases cut
  | cons first rest ih =>
    cases first with
    | mark => simpa [operandsFrom] using ih none
    | plain c =>
      -- The symbol is no `>`, so an operator before it is one with and without it.
      have head : (rest ++ symbol :: right).head? = some (.plain '>') ↔
          rest.head? = some (.plain '>') := by
        cases rest with
        | nil =>
          refine iff_of_false ?_ (by simp)
          intro same
          cases same
          cases cut
        | cons next rest => rfl
      simp only [List.cons_append, operandsFrom, head]
      split
      · rw [ih, List.append_assoc]
      · split
        · exact ih _
        · exact ih _

theorem operandsFrom_eq_nil {masked : List Symbol} (arrowless : .plain '>' ∉ masked)
    (held : Option (List Char)) : operandsFrom held masked = [] := by
  induction masked generalizing held with
  | nil => rfl
  | cons symbol rest ih =>
    simp only [List.mem_cons, not_or] at arrowless
    cases symbol with
    | mark => exact ih arrowless.2 none
    | plain c =>
      have noArrow : ¬ (c = '-' ∧ rest.head? = some (.plain '>')) := by
        intro arrow
        exact arrowless.2 (List.mem_of_head? arrow.2)
      simp only [operandsFrom, if_neg noArrow]
      split
      · exact ih arrowless.2 _
      · exact ih arrowless.2 _

/-- No blank, no parenthesis and no end of an operator. -/
def IsOperand (text : String) : Prop :=
  ∀ c ∈ [' ', '(', ')', '>'], c ∉ text.toList

private theorem operandsFrom_name {text : String} (operand : IsOperand text) {rest : List Symbol}
    (ends : rest.head? ≠ some (.plain '>')) (held : List Char) :
    operandsFrom (some held) (symbols text ++ rest) =
      operandsFrom (some (text.toList.reverse ++ held)) rest := by
  unfold IsOperand at operand
  unfold symbols
  generalize text.toList = chars at operand
  induction chars generalizing held with
  | nil => rfl
  | cons c chars ih =>
    have later : ∀ mark ∈ [' ', '(', ')', '>'], mark ∉ chars :=
      fun mark known inside => operand mark known (List.mem_cons_of_mem _ inside)
    have solid : ¬ (c = ' ' ∨ c = '(' ∨ c = ')') := by
      intro same
      obtain rfl | rfl | rfl := same
      · exact operand ' ' (by decide) List.mem_cons_self
      · exact operand '(' (by decide) List.mem_cons_self
      · exact operand ')' (by decide) List.mem_cons_self
    have noArrow : ¬ (c = '-' ∧ (chars.map Symbol.plain ++ rest).head? = some (.plain '>')) := by
      intro arrow
      obtain ⟨_, next⟩ := arrow
      cases chars with
      | nil => exact ends next
      | cons other chars =>
        simp only [List.map_cons, List.cons_append, List.head?_cons, Option.some.injEq,
          Symbol.plain.injEq] at next
        exact later '>' (by decide) (next ▸ List.mem_cons_self)
    simp only [List.map_cons, List.cons_append, operandsFrom, if_neg noArrow, if_neg solid,
      Option.getD_some]
    rw [ih _ later]
    simp

theorem IsPath.operandsFrom_append {path : List Symbol} (form : IsPath path)
    (held : Option (List Char)) (rest : List Symbol) :
    operandsFrom held (path ++ rest) =
      (held.map fun chars => String.ofList chars.reverse).toList ++ operandsFrom none rest := by
  induction form generalizing held with
  | last => simp [symbols, operandsFrom]
  | step _ ih => simp [symbols, operandsFrom, ih]

/-- The operators of a path are one operand. -/
theorem pathOperands_path {text : String} (operand : IsOperand text) {path : List Symbol}
    (form : IsPath path) (rest : List Symbol) :
    pathOperands (symbols text ++ path ++ rest) = text :: operandsFrom none rest := by
  have ends : (path ++ rest).head? ≠ some (.plain '>') := by
    cases form with
    | last => simp [symbols]
    | step => simp [symbols]
  rw [pathOperands, List.append_assoc, operandsFrom_name operand ends, form.operandsFrom_append]
  simp

/-! ## Comparisons -/

section Comparisons

variable {schema : Schema}

theorem not_mem_columnReference {c : Char} (avoids : schema.Avoids c) (solid : c ≠ '.')
    {field : String} (known : schema.HasColumn field) :
    c ∉ (columnReference schema field).toList := by
  have bare := avoids.column known
  unfold columnReference
  split
  · rename_i table owner
    split
    · simp [avoids.table (.inr ⟨field, owner⟩), bare, solid]
    · exact bare
  · exact bare

/-- The reference to a column of a schema with plain names is read as one operand. -/
theorem isOperand_columnReference (plain : schema.PlainNames) (arrowless : schema.Avoids '>')
    {field : String} (known : schema.HasColumn field) :
    IsOperand (columnReference schema field) := by
  intro c member
  simp only [List.mem_cons, List.not_mem_nil, or_false] at member
  obtain rfl | rfl | rfl | rfl := member
  · exact not_mem_columnReference plain.blank (by decide) known
  · exact not_mem_columnReference plain.opening (by decide) known
  · exact not_mem_columnReference plain.closing (by decide) known
  · exact not_mem_columnReference arrowless (by decide) known

theorem plain_not_mem_symbols {c : Char} {text : String} :
    Symbol.plain c ∉ symbols text ↔ c ∉ text.toList := by
  simp [symbols]

theorem IsValue.arrowless {value : List Symbol} (form : IsValue value) :
    .plain '>' ∉ value := by
  cases form with
  | literal => decide
  | @word text member =>
    simp only [List.mem_cons, List.not_mem_nil, or_false] at member
    obtain rfl | rfl | rfl | rfl := member
    · decide
    · decide
    · decide
    · decide
  | @numeral text numeral =>
    intro member
    obtain ⟨c, inside, same⟩ := List.mem_map.mp member
    cases same
    have chars := numeral.chars '>' inside
    revert chars
    decide

/-- The references into columns among some keys. -/
def dottedKeys (keys : List String) : List String :=
  keys.filter fun key => !(FieldPath.ofKey key).isPlain

/-- The keys of a comparison that are written as paths. -/
def pathKeys (comparison : Comparison Value) : List String :=
  match comparison.relation with
  | .bound _ => []
  | .equal => dottedKeys [comparison.key]

def rootReference (schema : Schema) (key : String) : String :=
  columnReference schema (rootField key)

/-- The path operators of a text are applied to the columns of the given keys, in order. -/
def HasOperands (schema : Schema) (keys : List String) (text : String) : Prop :=
  Masks text fun masked => pathOperands masked = keys.map (rootReference schema)

variable (plain : schema.PlainNames) (arrowless : schema.Avoids '>')
include plain arrowless

omit arrowless in
theorem masks_columnSymbols {field : String} (known : schema.HasColumn field) :
    Masks (columnReference schema field) (· = symbols (columnReference schema field)) :=
  .plain (not_mem_columnReference plain.quote (by decide) known) rfl

private theorem hasOperands_equalityText {field : String} (known : schema.HasColumn field)
    (type : FieldType) (value : Value) :
    HasOperands schema [] (equalityText schema field type value) := by
  have column := masks_columnSymbols plain known
  refine column.between (masks_literal type value) (by decide) (by decide) ?_
  intro _ literal same form
  have noArrow := not_mem_columnReference arrowless (by decide) known
  refine operandsFrom_eq_nil ?_ _
  simp [same, plain_not_mem_symbols, noArrow, form.arrowless]

private theorem hasOperands_boundText {field : String} (known : schema.HasColumn field)
    (type : FieldType) (bound : ComparisonOperator × Value) :
    HasOperands schema [] (boundText schema field type bound) := by
  have column := masks_columnSymbols plain known
  have whole : boundText schema field type bound = columnReference schema field ++
      (" " ++ comparisonSymbol bound.1 ++ " ") ++ literal type bound.2 := by
    simp [boundText, String.append_assoc]
  have unquoted : '\'' ∉ (" " ++ comparisonSymbol bound.1 ++ " ").toList := by
    cases bound.1 <;> decide
  have nonempty : (" " ++ comparisonSymbol bound.1 ++ " ").toList ≠ [] := by
    cases bound.1 <;> decide
  have sign : pathOperands (symbols (comparisonSymbol bound.1)) = [] := by
    cases bound.1 <;> decide
  rw [whole]
  refine column.between (masks_literal type bound.2) unquoted nonempty ?_
  intro _ literal same form
  have noArrow := not_mem_columnReference arrowless (by decide) known
  have first : pathOperands (symbols (columnReference schema field)) = [] :=
    operandsFrom_eq_nil (plain_not_mem_symbols.mpr noArrow) _
  have last : pathOperands literal = [] := operandsFrom_eq_nil form.arrowless _
  have blank : cutAt? (.plain ' ') = some (some []) := rfl
  -- The sign stands between two blanks, so the three parts are read apart.
  have parts : symbols (columnReference schema field) ++
      symbols (" " ++ comparisonSymbol bound.1 ++ " ") ++ literal =
        symbols (columnReference schema field) ++
          .plain ' ' :: (symbols (comparisonSymbol bound.1) ++ .plain ' ' :: literal) := by
    simp [symbols]
  rw [pathOperands] at first sign last ⊢
  rw [same, parts, operandsFrom_append_cons blank, operandsFrom_append_cons blank, first, sign,
    last]
  rfl

private theorem hasOperands_containmentText {field : String} (known : schema.HasColumn field)
    (value : Value) : HasOperands schema [] (containmentText schema field value) := by
  have column := masks_columnSymbols plain known
  have document : Masks (jsonLiteral value ++ "::jsonb") (· = .mark :: symbols "::jsonb") := by
    refine (masks_jsonLiteral value).after (by decide) ?_
    intro _ same
    rw [same]
    rfl
  unfold containmentText
  rw [String.append_assoc]
  refine column.between document (by decide) (by decide) ?_
  intro _ _ first second
  have noArrow := not_mem_columnReference arrowless (by decide) known
  have blank : cutAt? (.plain ' ') = some (some []) := rfl
  have parts : symbols (columnReference schema field) ++ symbols "::jsonb @> " ++
      .mark :: symbols "::jsonb" =
        symbols (columnReference schema field ++ "::jsonb") ++
          .plain ' ' :: (symbols "@>" ++ .plain ' ' :: .mark :: symbols "::jsonb") := by
    simp [symbols]
  have left : operandsFrom (some []) (symbols (columnReference schema field ++ "::jsonb")) =
      [] := by
    refine operandsFrom_eq_nil ?_ _
    simp [plain_not_mem_symbols, noArrow]
  rw [pathOperands, first, second, parts, operandsFrom_append_cons blank, left]
  rfl

theorem hasOperands_reference {key : String} (known : schema.HasColumn (rootField key))
    (dotted : (FieldPath.ofKey key).isPlain = false) {tail : String} {form : List Symbol → Prop}
    (rest : Masks tail form) (starts : ∀ masked, form masked → masked.head? ≠ some .mark)
    (silent : ∀ masked, form masked → operandsFrom none masked = []) :
    HasOperands schema [key] (reference schema (FieldPath.ofKey key) ++ tail) := by
  have segments : (FieldPath.ofKey key).segments ≠ [] := by
    intro none
    simp [FieldPath.isPlain, none] at dotted
  have steps : Masks (pathSteps (FieldPath.ofKey key).segments ++ tail) (fun masked =>
      ∃ path rest, masked = path ++ rest ∧ IsPath path ∧ form rest) :=
    (masks_pathSteps segments).append rest starts fun _ _ path rest => ⟨_, _, rfl, path, rest⟩
  have operand := isOperand_columnReference plain arrowless known
  rw [reference, String.append_assoc]
  refine steps.before (not_mem_columnReference plain.quote (by decide) known) ?_
  intro _ parts
  obtain ⟨path, rest, same, form, ends⟩ := parts
  rw [rootField] at operand
  rw [same, ← List.append_assoc, pathOperands_path operand form, silent _ ends]
  rfl

private theorem hasOperands_jsonPathText {key : String} (known : schema.HasColumn (rootField key))
    (dotted : (FieldPath.ofKey key).isPlain = false) (value : Value) :
    HasOperands schema [key] (jsonPathText schema (FieldPath.ofKey key) value) := by
  have literal : Masks ("=" ++ quote (textOf value)) (· = [.plain '=', .mark]) := by
    refine (Masks.quote _).before (by decide) ?_
    intro _ same
    rw [same]
    rfl
  rw [jsonPathText, String.append_assoc]
  refine hasOperands_reference plain arrowless known dotted literal ?_ ?_
  · intro _ same
    simp [same]
  · intro _ same
    rw [same]
    decide

theorem hasOperands_comparisonText {comparison : Comparison Value}
    (resolved : Resolved schema comparison) :
    HasOperands schema (pathKeys comparison) (comparisonText schema comparison) := by
  obtain ⟨key, relation, value⟩ := comparison
  have known : schema.HasColumn (rootField key) := .inl resolved
  obtain ⟨type, typed⟩ := Option.isSome_iff_exists.mp resolved
  cases relation with
  | bound operator =>
    rw [comparisonText_bound typed]
    exact hasOperands_boundText plain arrowless known type _
  | equal =>
    cases dotted : (FieldPath.ofKey key).isPlain with
    | false =>
      rw [comparisonText_path typed dotted]
      simpa [pathKeys, dottedKeys, dotted] using
        hasOperands_jsonPathText plain arrowless known dotted value
    | true =>
      have silent : pathKeys ⟨key, .equal, value⟩ = [] := by simp [pathKeys, dottedKeys, dotted]
      rw [silent]
      by_cases json : type = .json
      · rw [comparisonText_containment (json ▸ typed) dotted]
        exact hasOperands_containmentText plain arrowless known value
      · rw [comparisonText_equality typed dotted json]
        exact hasOperands_equalityText plain arrowless known type value

end Comparisons

end UniversalQuery.Sql
