import UniversalQuery.Proofs.Sql.AssignedColumns
import UniversalQuery.Proofs.Sql.PredicateMeaning

set_option autoImplicit false

/-! Statements have the form of the grammar once marks stand for their literals. Whatever a query or
a record holds stays inside literals, and the literals end where they should. -/

namespace UniversalQuery.Sql

open Formula Statement

variable {schema : Schema} {policy : UnknownFields}

/-! ## Conditions -/

theorem Phrase.isPredicate {operator : BooleanOperator} {tokens : List (Token (Comparison Value))}
    {formula : Formula (Comparison Value)} (phrase : Phrase operator tokens formula)
    (unquoted : schema.Avoids '\'')
    (resolved : ∀ comparison, .leaf comparison ∈ tokens → Resolved schema comparison) :
    IsPredicate schema (mask (tokens.flatMap (Token.pieces (comparisonPieces schema)))) := by
  induction phrase with
  | @leaf comparison =>
    have form := (comparisonPieces_form unquoted (resolved comparison List.mem_cons_self)).2
    simpa [Token.pieces] using IsPredicate.comparison form
  | parenthesized _ ih =>
    have inner := ih fun comparison member => resolved comparison (by simp [member])
    simpa [Token.pieces] using IsPredicate.parentheses inner
  | loosened _ ih => exact ih resolved
  | @joined operator _ _ _ _ _ _ leftIH rightIH =>
    have left := leftIH fun comparison member => resolved comparison (by simp [member])
    have right := rightIH fun comparison member => resolved comparison (by simp [member])
    have known : keyword operator ∈ [" AND ", " OR "] := by cases operator <;> decide
    simpa [Token.pieces] using IsPredicate.join left known right

theorem Renders.masks {predicate : Predicate} {formula : Formula (Comparison Value)}
    (renders : Renders schema predicate formula) (unquoted : schema.Avoids '\'') :
    Masks predicate.text (IsPredicate schema) := by
  obtain ⟨tokens, shape, phrase, _, resolved, written⟩ := renders
  exact ⟨_, written, phrase.isPredicate unquoted resolved⟩

theorem IsWhere.head? {clause : List Symbol} (form : IsWhere schema clause) :
    clause.head? ≠ some .mark := by
  cases form with
  | absent => decide
  | predicate => simp [symbols]

private theorem masks_whereClause (unquoted : schema.Avoids '\'') {document : Document}
    {conditions : List Condition} (classified : classify schema policy document = .ok conditions) :
    Masks (whereClause schema conditions) (IsWhere schema) := by
  have yields := (yields_document unquoted document classified).join unquoted .and
  unfold whereClause
  dsimp only
  split
  · exact .plain (by decide) .absent
  · rename_i nonempty
    obtain ⟨formula, _, renders⟩ := yields.renders nonempty
    exact .before (by decide) (renders.masks unquoted) fun _ => .predicate

theorem masks_queryClause (unquoted : schema.Avoids '\'') {query : Query}
    {conditions : List Condition}
    (compiled : queryConditions schema policy query = .ok conditions) :
    Masks (whereClause schema conditions) (IsWhere schema) := by
  unfold queryConditions at compiled
  cases asked : query.snakeCased.condition with
  | none =>
    rw [asked] at compiled
    cases compiled
    have empty : whereClause schema [] = "" := rfl
    rw [empty]
    exact .plain (by decide) .absent
  | some document =>
    rw [asked] at compiled
    exact masks_whereClause unquoted compiled

/-- The clause of a row needs no condition. -/
theorem masks_keyClause (unquoted : schema.Avoids '\'') :
    Masks (keyClause schema) (IsWhere schema) := by
  have known : schema.HasColumn schema.primaryKey := .inr rfl
  have named : schema.HasTable schema.table := .inl rfl
  have column : Masks (if schema.qualifies then schema.table ++ "." ++ schema.primaryKey
      else schema.primaryKey) (IsColumn schema) := by
    split
    · refine .plain ?_ ?_
      · simp [unquoted.table named, unquoted.column known]
      · simpa using IsColumn.qualified named known
    · exact .plain (unquoted.column known) (.bare known)
  have value : Masks placeholder IsValue := .plain (by decide) (.word (by decide))
  have predicate : Masks (_ ++ "=" ++ placeholder) (IsPredicate schema) :=
    column.between value (by decide) (by decide) fun _ _ column value =>
      .comparison (.equality (.column column) value)
  have whole : Masks (" WHERE " ++ (_ ++ "=" ++ placeholder)) (IsWhere schema) :=
    predicate.before (by decide) fun _ => .predicate
  unfold keyClause
  simpa only [String.append_assoc] using whole

/-! ## Orders -/

theorem resolved_of_knownOrder {entries known : List OrderEntry}
    (compiled : knownOrder schema policy entries = .ok known) :
    ∀ entry ∈ known, schema.HasColumn (FieldPath.ofKey entry.field).root := by
  induction entries generalizing known with
  | nil =>
    cases compiled
    simp
  | cons entry rest ih =>
    unfold knownOrder at compiled
    split at compiled
    · rename_i resolved
      obtain ⟨others, tail, same⟩ := exists_of_bind_eq_ok compiled
      cases same
      intro other member
      rcases List.mem_cons.mp member with rfl | later
      · exact .inl resolved
      · exact ih tail other later
    · cases policy with
      | reject => cases compiled
      | drop => exact ih compiled

private theorem masks_orderItem (unquoted : schema.Avoids '\'') {entry : OrderEntry}
    (known : schema.HasColumn (FieldPath.ofKey entry.field).root) :
    Masks (orderItem schema entry) (IsOrderItem schema) := by
  have direction : " " ++ entry.direction.keyword ∈ [" ASC", " DESC"] := by
    cases entry.direction <;> decide
  unfold orderItem
  rw [String.append_assoc]
  refine (masks_reference unquoted known).after ?_ fun _ reference => .intro reference direction
  cases entry.direction <;> decide

theorem IsOrder.head? {clause : List Symbol} (form : IsOrder schema clause) :
    clause.head? ≠ some .mark := by
  cases form with
  | absent => decide
  | items => simp [symbols]

private theorem masks_orderClause (unquoted : schema.Avoids '\'') {query : Query}
    {order : List OrderEntry} (compiled : queryOrder schema policy query = .ok order) :
    Masks (orderClause schema order) (IsOrder schema) := by
  unfold orderClause
  split
  · exact .plain (by decide) .absent
  · rename_i nonempty
    have items := Masks.series (orderItem schema) order nonempty fun entry member =>
      masks_orderItem unquoted (resolved_of_knownOrder compiled entry member)
    exact .before (by decide) items fun _ => .items

/-! ## Records -/

theorem masks_target (unquoted : schema.Avoids '\'') {column : String}
    (writable : schema.HasWritable column) : Masks column (IsTarget schema) :=
  .plain (unquoted.writable writable) (.intro writable)

private theorem writable_of_mem_insertedFields {record : Document} {field : InsertedField}
    (member : field ∈ insertedFields schema record) : schema.HasWritable field.column := by
  obtain ⟨entry, _, inserted⟩ := List.mem_filterMap.mp member
  obtain ⟨type, typed, rfl⟩ := Option.map_eq_some_iff.mp inserted
  simp [Schema.HasWritable, typed]

private theorem masks_row (unquoted : schema.Avoids '\'') {fields : List InsertedField}
    (nonempty : fields ≠ []) (writable : ∀ field ∈ fields, schema.HasWritable field.column) :
    Masks (", ".intercalate (fields.map (·.column)) ++ ") VALUES (" ++
      ", ".intercalate (fields.map fun field => literal field.type field.value))
      (IsRow schema) := by
  have columns := Masks.series (·.column) fields nonempty fun field member =>
    masks_target unquoted (writable field member)
  have values := Masks.series (fun field => literal field.type field.value) fields nonempty
    fun field _ => masks_literal field.type field.value
  exact columns.between values (by decide) (by decide) fun _ _ => .intro

private theorem text_insert (fields : List InsertedField) :
    (Statement.insert fields).text schema = "INSERT INTO " ++ schema.table ++ " (" ++
      (", ".intercalate (fields.map (·.column)) ++ ") VALUES (" ++
        ", ".intercalate (fields.map fun field => literal field.type field.value)) ++ ")" := by
  change "INSERT INTO " ++ schema.table ++ " (" ++ ", ".intercalate (fields.map (·.column)) ++
    ") VALUES (" ++ ", ".intercalate (fields.map fun field => literal field.type field.value) ++
    ")" = _
  simp only [String.append_assoc]

private theorem masks_attributeText {expression : String} (update : AttributeUpdate)
    (inner : Masks expression (IsExpression schema)) :
    Masks (Assignment.attributeText expression update) (IsExpression schema) := by
  have path : Masks (Assignment.pathLiteral update.segments) (· = [.mark]) := .quote _
  have literals : Masks
      (Assignment.pathLiteral update.segments ++ ", " ++ jsonLiteral update.value)
      (· = [.mark] ++ symbols ", " ++ [.mark]) := by
    refine path.between (masks_jsonLiteral update.value) (by decide) (by decide) ?_
    intro _ _ first second
    rw [first, second]
  have arguments : Masks (expression ++ ", " ++
      (Assignment.pathLiteral update.segments ++ ", " ++ jsonLiteral update.value))
      (fun masked => IsExpression schema (symbols "jsonb_set(" ++ masked ++ symbols "::jsonb)")) :=
    inner.between literals (by decide) (by decide)
      (by rintro inner _ form rfl; exact .replacement form)
  have whole : Masks ("jsonb_set(" ++ _ ++ "::jsonb)") (IsExpression schema) :=
    arguments.enclosed (by decide) (by decide) fun _ => id
  unfold Assignment.attributeText
  simpa only [String.append_assoc] using whole

private theorem masks_attributes (updates : List AttributeUpdate) {expression : String}
    (inner : Masks expression (IsExpression schema)) :
    Masks (updates.foldl Assignment.attributeText expression) (IsExpression schema) := by
  induction updates generalizing expression with
  | nil => exact inner
  | cons update rest ih => exact ih (masks_attributeText update inner)

private theorem masks_assignment (unquoted : schema.Avoids '\'') {assignment : Assignment}
    (writable : schema.HasWritable assignment.column) :
    Masks assignment.text (IsAssignment schema) := by
  have target := masks_target unquoted writable
  cases assignment with
  | plain column type value =>
    exact target.between (masks_literal type value) (by decide) (by decide) fun _ _ => .value
  | attributes column updates =>
    have whole : Masks (column ++ "::jsonb") (IsExpression schema) :=
      target.after (by decide) fun _ => .column
    exact target.between (masks_attributes updates whole) (by decide) (by decide)
      fun _ _ => .expression

private theorem masks_assignmentList (unquoted : schema.Avoids '\'') {record : Document}
    (nonempty : assignments schema record ≠ []) :
    Masks (assignmentList (assignments schema record)) (IsSeries (IsAssignment schema)) :=
  .series _ _ nonempty fun _ member => masks_assignment unquoted (writable_of_mem_ofFields member)

private theorem masks_clause (unquoted : schema.Avoids '\'') {clause : String}
    (picks : Picks schema policy clause) : Masks clause (IsWhere schema) := by
  cases picks with
  | byCondition compiled => exact masks_queryClause unquoted compiled
  | byKey => exact masks_keyClause unquoted

/-! ## Statements -/

/-- The statements that a query and a record can be compiled to. -/
inductive Compiled (schema : Schema) (policy : UnknownFields) : Statement → Prop where
  | select {query : Query} {statement : Statement} :
      ofSelect schema policy query = .ok statement → Compiled schema policy statement
  | count {query : Query} {statement : Statement} :
      ofCount schema policy query = .ok statement → Compiled schema policy statement
  | insert {record : Document} {statement : Statement} :
      ofInsert? schema record = some statement → Compiled schema policy statement
  | update {record : Document} {statement : Statement} :
      Updated schema policy record statement → Compiled schema policy statement
  | remove {query : Query} {statement : Statement} :
      ofRemove schema policy query = .ok statement → Compiled schema policy statement
  | removeByKey : Compiled schema policy .removeByKey

section Kinds

variable {query : Query} {record : Document} {statement : Statement}

private theorem quote_not_mem_table (unquoted : schema.Avoids '\'') :
    '\'' ∉ schema.table.toList :=
  unquoted.table (.inl rfl)

private theorem masks_select (unquoted : schema.Avoids '\'')
    (selected : ofSelect schema policy query = .ok statement) :
    Masks (statement.text schema) (IsStatement schema) := by
  obtain ⟨conditions, known, tail⟩ := exists_of_bind_eq_ok selected
  obtain ⟨order, sorted, same⟩ := exists_of_bind_eq_ok tail
  cases same
  have clauses : Masks (whereClause schema conditions ++ orderClause schema order) (fun masked =>
      IsStatement schema (symbols ("SELECT * FROM " ++ schema.table) ++ masked)) :=
    (masks_queryClause unquoted known).append (masks_orderClause unquoted sorted)
      (fun _ => IsOrder.head?) fun _ _ condition order => by
        simpa using IsStatement.select condition order
  change Masks ("SELECT * FROM " ++ schema.table ++ whereClause schema conditions ++
    orderClause schema order) (IsStatement schema)
  rw [String.append_assoc]
  exact clauses.before (by simp [quote_not_mem_table unquoted]) fun _ => id

private theorem masks_count (unquoted : schema.Avoids '\'')
    (counted : ofCount schema policy query = .ok statement) :
    Masks (statement.text schema) (IsStatement schema) := by
  obtain ⟨conditions, known, rfl⟩ := exists_of_map_eq_ok counted
  have clause := masks_queryClause unquoted known
  refine clause.before (by simp [quote_not_mem_table unquoted]) fun _ condition => ?_
  simpa using IsStatement.count condition

private theorem masks_insert (unquoted : schema.Avoids '\'')
    (inserted : ofInsert? schema record = some statement) :
    Masks (statement.text schema) (IsStatement schema) := by
  unfold ofInsert? at inserted
  split at inserted
  · cases inserted
  · rename_i fields nonempty
    cases inserted
    have row := masks_row unquoted nonempty fun _ => writable_of_mem_insertedFields
    rw [text_insert]
    exact row.enclosed (by simp [quote_not_mem_table unquoted]) (by decide) fun _ form => by
      simpa using IsStatement.insert form

private theorem masks_update (unquoted : schema.Avoids '\'')
    (updated : Updated schema policy record statement) :
    Masks (statement.text schema) (IsStatement schema) := by
  obtain ⟨nonempty, clause, picks, text⟩ := updated.text_eq
  have body : Masks (assignmentList (assignments schema record) ++ clause) (fun masked =>
      IsStatement schema (symbols ("UPDATE " ++ schema.table ++ " SET ") ++ masked)) :=
    (masks_assignmentList unquoted nonempty).append (masks_clause unquoted picks)
      (fun _ => IsWhere.head?) fun _ _ items condition => by
        simpa using IsStatement.update items condition
  rw [text, String.append_assoc]
  exact body.before (by simp [quote_not_mem_table unquoted]) fun _ => id

private theorem masks_remove (unquoted : schema.Avoids '\'')
    (removed : ofRemove schema policy query = .ok statement) :
    Masks (statement.text schema) (IsStatement schema) := by
  obtain ⟨conditions, known, rfl⟩ := exists_of_map_eq_ok removed
  have clause := masks_queryClause unquoted known
  refine clause.before (by simp [quote_not_mem_table unquoted]) fun _ condition => ?_
  simpa using IsStatement.remove condition

private theorem masks_removeByKey (unquoted : schema.Avoids '\'') :
    Masks (Statement.removeByKey.text schema) (IsStatement schema) := by
  have clause := masks_keyClause unquoted
  refine clause.before (by simp [quote_not_mem_table unquoted]) fun _ condition => ?_
  simpa using IsStatement.remove condition

end Kinds

theorem masks_statement (unquoted : schema.Avoids '\'') {statement : Statement}
    (compiled : Compiled schema policy statement) :
    Masks (statement.text schema) (IsStatement schema) := by
  cases compiled with
  | select selected => exact masks_select unquoted selected
  | count counted => exact masks_count unquoted counted
  | insert inserted => exact masks_insert unquoted inserted
  | update updated => exact masks_update unquoted updated
  | remove removed => exact masks_remove unquoted removed
  | removeByKey => exact masks_removeByKey unquoted

/-- Outside literals, a statement is made of keywords, operators, numerals, the placeholder and the
names of its model, as the grammar has it. -/
theorem statement_form {model : Model} (unquoted : ∀ name ∈ model.names, '\'' ∉ name.toList)
    {statement : Statement} (compiled : Compiled model.schema policy statement) :
    ∃ masked, maskText? (statement.text model.schema) = some masked ∧
      IsStatement model.schema masked :=
  (masks_statement (Model.schema_avoids unquoted) compiled).exists_maskText

/-- A query with quotes in a value, in a path and in an order. -/
def quotes : Query :=
  ⟨some [("name", .string "x' OR 'a'='a"), ("job.a'b", .string "--")],
    some [⟨"job.t'", .descending⟩]⟩

theorem statement_form_quotes :
    ∃ masked,
      maskText? ("SELECT * FROM people WHERE name='x'' OR ''a''=''a' AND job->>'a''b'='--' " ++
        "ORDER BY job->>'t''' DESC") = some masked ∧ IsStatement people.schema masked := by
  have compiled : (Statement.ofSelect people.schema .reject quotes).map
      (Statement.text people.schema) =
        .ok ("SELECT * FROM people WHERE name='x'' OR ''a''=''a' AND job->>'a''b'='--' " ++
          "ORDER BY job->>'t''' DESC") := by decide +kernel
  obtain ⟨statement, selected, text⟩ := exists_of_map_eq_ok compiled
  rw [← text]
  exact statement_form (by decide) (.select selected)

end UniversalQuery.Sql
