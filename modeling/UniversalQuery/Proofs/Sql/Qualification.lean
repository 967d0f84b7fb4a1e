import UniversalQuery.Proofs.Sql.StatementColumns

set_option autoImplicit false

/-! What qualification changes. A model that qualifies compiles the same queries and records to the
same statements, and only the text of references differs: they carry the name of the first table
that declares their column, or that of the target for its primary key. -/

namespace UniversalQuery

/-- The table is the first one of the model that declares the column. -/
def Model.FirstDeclares (model : Model) (column : String) (table : Table) : Prop :=
  ∃ before after, model.tables = before ++ table :: after ∧ table.declares column = true ∧
    ∀ earlier ∈ before, earlier.declares column = false

theorem Model.owner?_iff_firstDeclares {model : Model} {column : String} {table : Table} :
    model.owner? column = some table ↔ model.FirstDeclares column table := by
  rw [owner?, List.find?_eq_some_iff_append]
  constructor
  · rintro ⟨declares, before, after, split, others⟩
    exact ⟨before, after, split, declares, by simpa using others⟩
  · rintro ⟨before, after, split, declares, others⟩
    exact ⟨declares, before, after, split, by simpa using others⟩

namespace Sql

open Formula

/-! ## Requests -/

/-- What a statement can be compiled from. -/
inductive Request where
  | select (query : Query)
  | count (query : Query)
  | insert (record : Document)
  | update (query : Query) (record : Document)
  | updateByKey (record : Document)
  | remove (query : Query)
  | removeByKey

namespace Request

/-- The statement of a request, unless there is nothing to write. -/
def compile (schema : Schema) (policy : UnknownFields) :
    Request → Except CompileError (Option Statement)
  | .select query => (Statement.ofSelect schema policy query).map some
  | .count query => (Statement.ofCount schema policy query).map some
  | .insert record => .ok (Statement.ofInsert? schema record)
  | .update query record => Statement.ofUpdate schema policy query record
  | .updateByKey record => .ok (Statement.ofUpdateByKey? schema record)
  | .remove query => (Statement.ofRemove schema policy query).map some
  | .removeByKey => .ok (some .removeByKey)

def text (schema : Schema) (policy : UnknownFields) (request : Request) :
    Except CompileError (Option String) :=
  (request.compile schema policy).map (Option.map (Statement.text schema))

def parts (schema : Schema) (policy : UnknownFields) (request : Request) :
    Except CompileError (Option (List Part)) :=
  (request.compile schema policy).map (Option.map (Statement.parts schema))

end Request

/-! ## Compiling -/

variable {schema left right : Schema} {policy : UnknownFields} {key : String}

private theorem classifyField_congr (types : left.fieldType? = right.fieldType?) (value : Value) :
    classifyField left policy key value = classifyField right policy key value := by
  simp only [classifyField, types]

mutual

theorem classifyEntry_congr (types : left.fieldType? = right.fieldType?) (key : String)
    (value : Value) :
    classifyEntry left policy key value = classifyEntry right policy key value := by
  cases named : BooleanOperator.ofKey? key with
  | none => rw [classifyEntry_field named, classifyEntry_field named, classifyField_congr types]
  | some operator =>
    cases value with
    | array items => simp only [classifyEntry, named, classifyGroups_congr types operator items]
    | _ => simp only [classifyEntry, named]

theorem classifyGroups_congr (types : left.fieldType? = right.fieldType?)
    (operator : BooleanOperator) : (items : List Value) →
    classifyGroups left policy operator items = classifyGroups right policy operator items
  | [] => rfl
  | item :: rest => by
    cases item with
    | object fields =>
      simp only [classifyGroups, classify_congr types fields,
        classifyGroups_congr types operator rest]
    | _ => simp only [classifyGroups]

/-- Classifying asks a schema only for the types of fields. -/
theorem classify_congr (types : left.fieldType? = right.fieldType?) :
    (document : List (String × Value)) →
    classify left policy document = classify right policy document
  | [] => rfl
  | (key, value) :: rest => by
    simp only [classify, classifyEntry_congr types key value, classify_congr types rest]

end

private theorem queryConditions_congr (types : left.fieldType? = right.fieldType?) (query : Query) :
    queryConditions left policy query = queryConditions right policy query := by
  unfold queryConditions
  cases query.snakeCased.condition with
  | none => rfl
  | some document => exact classify_congr types document

private theorem queryOrder_congr (types : left.fieldType? = right.fieldType?) (query : Query) :
    queryOrder left policy query = queryOrder right policy query := by
  unfold queryOrder
  induction query.snakeCased.order.getD [] with
  | nil => rfl
  | cons entry rest ih => simp only [knownOrder, types, ih]

variable (model : Model) (qualify : Qualify)

theorem Request.compile_withQualify (request : Request) :
    request.compile (model.withQualify qualify).schema policy =
      request.compile model.schema policy := by
  have types : (model.withQualify qualify).schema.fieldType? = model.schema.fieldType? := rfl
  have conditions (query : Query) :
      queryConditions (model.withQualify qualify).schema policy query =
        queryConditions model.schema policy query := queryConditions_congr types query
  have assigned (record : Document) :
      assignments (model.withQualify qualify).schema record =
        assignments model.schema record := rfl
  cases request with
  | select query =>
    simp only [compile, Statement.ofSelect, conditions, queryOrder_congr types]
  | count query => simp only [compile, Statement.ofCount, conditions]
  | insert record => rfl
  | update query record => simp only [compile, Statement.ofUpdate, conditions, assigned]
  | updateByKey record => rfl
  | remove query => simp only [compile, Statement.ofRemove, conditions]
  | removeByKey => rfl

theorem Request.text_withQualify (request : Request) :
    request.text (model.withQualify qualify).schema policy =
      (request.parts model.schema policy).map
        (Option.map (fill (model.withQualify qualify).qualifies)) := by
  have written (statement : Statement) :
      statement.text (model.withQualify qualify).schema =
        fill (model.withQualify qualify).qualifies (statement.parts model.schema) := by
    rw [Statement.text_eq_fill]
    cases statement <;> rfl
  rw [text, compile_withQualify, parts]
  cases request.compile model.schema policy with
  | error error => rfl
  | ok statement? =>
    cases statement? with
    | none => rfl
    | some statement => exact congrArg (Except.ok ∘ some) (written statement)

theorem qualifies_auto :
    (model.withQualify .auto).qualifies =
      (model.withQualify (if 1 < model.tables.length then .always else .never)).qualifies := by
  change (!model.others.isEmpty) = _
  cases others : model.others with
  | nil => simp [Model.tables, others, Model.qualifies, Model.withQualify]
  | cons other rest => simp [Model.tables, others, Model.qualifies, Model.withQualify]

/-! ## Columns of requests -/

namespace Request

/-- The columns of the target that a request writes. -/
def writtenColumns (schema : Schema) : Request → List String
  | .insert record => (insertedFields schema record).map (·.column)
  | .update _ record | .updateByKey record =>
    (assignments schema record).flatMap Assignment.columns
  | _ => []

/-- The fields that the query of a request refers to. -/
def fields (schema : Schema) : Request → List String
  | .select query => conditionFields schema query ++ orderFields schema query
  | .count query | .update query _ | .remove query => conditionFields schema query
  | _ => []

/-- The reference to the primary key, where it picks the row. -/
def keyReference (schema : Schema) : Request → List Part
  | .updateByKey _ | .removeByKey => [.reference (some schema.table) schema.primaryKey]
  | _ => []

/-- The columns that the statement of a request has, in order. -/
def columns (schema : Schema) (request : Request) : List Part :=
  (request.writtenColumns schema).map .written ++
    (request.fields schema).map (columnPart schema.owner?) ++ request.keyReference schema

private theorem columns_insertParts (fields : List InsertedField) :
    Sql.columns ((Statement.insert fields).parts schema) =
      fields.map (Part.written ∘ (·.column)) := by
  have values : (fields.map fun field => [Part.literal field.type field.value]).flatMap
      Sql.columns = [] := by
    simp [Sql.columns, Part.isColumn]
  have written : (fields.map fun field => [Part.written field.column]).flatMap Sql.columns =
      fields.map (Part.written ∘ (·.column)) := by
    rw [List.flatMap_map, List.map_eq_flatMap]
    rfl
  rw [Statement.parts, columns_append, columns_append, columns_append, columns_append,
    columns_series rfl, columns_series rfl, written, values]
  simp [Sql.columns, Part.isColumn]

private theorem columns_keyParts (schema : Schema) :
    Sql.columns (keyParts schema) = [.reference (some schema.table) schema.primaryKey] := rfl

section Kinds

variable {query : Query} {record : Document} {statement : Statement}

private theorem columns_select (selected : Statement.ofSelect schema policy query = .ok statement) :
    Sql.columns (statement.parts schema) = (select query).columns schema := by
  obtain ⟨conditions, known, tail⟩ := exists_of_bind_eq_ok selected
  obtain ⟨order, sorted, same⟩ := exists_of_bind_eq_ok tail
  cases same
  rw [Statement.parts, columns_append, columns_append, columns_conditions _ known,
    columns_order _ sorted, columns, fields, List.map_append]
  exact (List.append_nil _).symm

private theorem columns_count (counted : Statement.ofCount schema policy query = .ok statement) :
    Sql.columns (statement.parts schema) = (count query).columns schema := by
  obtain ⟨conditions, known, rfl⟩ := exists_of_map_eq_ok counted
  rw [Statement.parts, columns_append, columns_conditions _ known]
  exact (List.append_nil _).symm

private theorem columns_insert (inserted : Statement.ofInsert? schema record = some statement) :
    Sql.columns (statement.parts schema) = (insert record).columns schema := by
  unfold Statement.ofInsert? at inserted
  split at inserted
  · cases inserted
  · cases inserted
    rw [columns_insertParts]
    simp [columns, writtenColumns, fields, keyReference]

private theorem columns_update
    (updated : Statement.ofUpdate schema policy query record = .ok (some statement)) :
    Sql.columns (statement.parts schema) = (update query record).columns schema := by
  unfold Statement.ofUpdate at updated
  split at updated
  · cases updated
  · obtain ⟨conditions, known, same⟩ := exists_of_map_eq_ok updated
    cases same
    rw [Statement.parts, columns_append, columns_append, columns_conditions _ known,
      columns_assignmentsParts]
    exact (List.append_nil _).symm

private theorem columns_updateByKey
    (updated : Statement.ofUpdateByKey? schema record = some statement) :
    Sql.columns (statement.parts schema) = (updateByKey record).columns schema := by
  unfold Statement.ofUpdateByKey? at updated
  split at updated
  · cases updated
  · cases updated
    rw [Statement.parts, columns_append, columns_append, columns_assignmentsParts,
      columns_keyParts]
    exact congrArg (· ++ _) (List.append_nil _).symm

private theorem columns_remove (removed : Statement.ofRemove schema policy query = .ok statement) :
    Sql.columns (statement.parts schema) = (remove query).columns schema := by
  obtain ⟨conditions, known, rfl⟩ := exists_of_map_eq_ok removed
  rw [Statement.parts, columns_append, columns_conditions _ known]
  exact (List.append_nil _).symm

end Kinds

/-- A statement has the columns of its request, in order. -/
theorem columns_parts {request : Request} {statement : Statement}
    (compiled : request.compile schema policy = .ok (some statement)) :
    Sql.columns (statement.parts schema) = request.columns schema := by
  cases request with
  | select query =>
    obtain ⟨_, selected, ⟨⟩⟩ := exists_of_map_eq_ok compiled
    exact columns_select selected
  | count query =>
    obtain ⟨_, counted, ⟨⟩⟩ := exists_of_map_eq_ok compiled
    exact columns_count counted
  | insert record => exact columns_insert (Except.ok.inj compiled)
  | update query record => exact columns_update compiled
  | updateByKey record => exact columns_updateByKey (Except.ok.inj compiled)
  | remove query =>
    obtain ⟨_, removed, ⟨⟩⟩ := exists_of_map_eq_ok compiled
    exact columns_remove removed
  | removeByKey =>
    cases compiled
    rfl

theorem isKnown_of_mem_fields {request : Request} {field : String}
    (member : field ∈ request.fields schema) : (schema.fieldType? field).isSome = true := by
  have compared (query : Query) (member : field ∈ conditionFields schema query) :
      (schema.fieldType? field).isSome = true := isKnown_of_mem_document _ member
  cases request with
  | select query =>
    rcases List.mem_append.mp member with condition | order
    · exact compared query condition
    · obtain ⟨entry, known, rfl⟩ := List.mem_map.mp order
      exact (List.mem_filter.mp known).2
  | count query | update query _ | remove query => exact compared query member
  | insert _ | updateByKey _ | removeByKey => cases member

end Request

/-- Qualification changes the text of references and nothing else: a request fails alike, has no
statement alike, or has statements of the same parts. Of these the columns that are written never
carry the name of a table. Those that are referred to have that of the first table that declares
them, the primary key that of the target. -/
theorem qualification_names_references (model : Model) (policy : UnknownFields)
    (request : Request) :
    request.text (model.withQualify .never).schema policy =
      (request.parts model.schema policy).map (Option.map (fill false)) ∧
    request.text (model.withQualify .always).schema policy =
      (request.parts model.schema policy).map (Option.map (fill true)) ∧
    request.text (model.withQualify .auto).schema policy =
      request.text
        (model.withQualify (if 1 < model.tables.length then .always else .never)).schema policy ∧
    (∀ parts, request.parts model.schema policy = .ok (some parts) →
      columns parts = request.columns model.schema) ∧
    ∀ field ∈ request.fields model.schema, ∃ table, model.FirstDeclares field table ∧
      columnPart model.schema.owner? field = .reference (some table.name) field := by
  refine ⟨request.text_withQualify model .never, request.text_withQualify model .always, ?_, ?_, ?_⟩
  · rw [request.text_withQualify, request.text_withQualify, qualifies_auto]
  · intro parts compiled
    obtain ⟨statement?, known, same⟩ := exists_of_map_eq_ok compiled
    obtain ⟨statement, rfl, rfl⟩ := Option.map_eq_some_iff.mp same
    exact Request.columns_parts known
  · intro field member
    have known := Request.isKnown_of_mem_fields member
    obtain ⟨type, typed⟩ := Option.isSome_iff_exists.mp known
    obtain ⟨table, owner, -⟩ := Option.bind_eq_some_iff.mp typed
    refine ⟨table, Model.owner?_iff_firstDeclares.mp owner, ?_⟩
    change Part.reference ((model.owner? field).map Table.name) field = _
    rw [owner]
    rfl

/-- People and jobs, where the salary is only among the columns of jobs. -/
def payroll : Model :=
  ⟨⟨"people", "id", [("name", .string), ("job", .json)]⟩,
   [⟨"jobs", "id", [("title", .string), ("name", .text), ("salary", .decimal)]⟩], .auto⟩

/-- A raise, with names that are both written and referred to. -/
def payRaise : Request :=
  .update ⟨some [("name", .string "Jon"), ("salary", .object [("lt", .int 9)]),
      ("job.title", .string "clerk")], none⟩
    [("name", .string "Jo"), ("job.level", .int 2)]

theorem qualification_names_references_payRaise :
    ∃ parts, payRaise.parts payroll.schema .reject = .ok (some parts) ∧
      payRaise.text (payroll.withQualify .never).schema .reject = .ok (some (fill false parts)) ∧
      fill false parts = "UPDATE people SET name='Jo', job=jsonb_set(job::jsonb, " ++
        "'\x7blevel\x7d', '2'::jsonb) WHERE name='Jon' AND salary < 9 AND job->>'title'='clerk'" ∧
      payRaise.text (payroll.withQualify .always).schema .reject = .ok (some (fill true parts)) ∧
      fill true parts = "UPDATE people SET name='Jo', job=jsonb_set(job::jsonb, " ++
        "'\x7blevel\x7d', '2'::jsonb) WHERE people.name='Jon' AND jobs.salary < 9 AND " ++
        "people.job->>'title'='clerk'" ∧
      (columns parts).map (Part.text true) =
        ["name", "job", "job", "people.name", "jobs.salary", "people.job"] ∧
      ∃ table, payroll.FirstDeclares "salary" table := by
  obtain ⟨never, always, -, columns, owned⟩ :=
    qualification_names_references payroll .reject payRaise
  have plain : payRaise.text (payroll.withQualify .never).schema .reject =
      .ok (some ("UPDATE people SET name='Jo', job=jsonb_set(job::jsonb, " ++
        "'\x7blevel\x7d', '2'::jsonb) WHERE name='Jon' AND salary < 9 AND " ++
        "job->>'title'='clerk'")) := by decide +kernel
  have qualified : payRaise.text (payroll.withQualify .always).schema .reject =
      .ok (some ("UPDATE people SET name='Jo', job=jsonb_set(job::jsonb, " ++
        "'\x7blevel\x7d', '2'::jsonb) WHERE people.name='Jon' AND jobs.salary < 9 AND " ++
        "people.job->>'title'='clerk'")) := by decide +kernel
  obtain ⟨parts?, known, filled⟩ := exists_of_map_eq_ok (never.symm.trans plain)
  obtain ⟨parts, rfl, text⟩ := Option.map_eq_some_iff.mp filled
  rw [known] at never always
  have named : fill true parts = _ :=
    Option.some.inj (Except.ok.inj (always.symm.trans qualified))
  refine ⟨parts, known, never, text, always, named, ?_, ?_⟩
  · rw [columns parts known]
    decide +kernel
  · obtain ⟨table, first, -⟩ := owned "salary" (by decide +kernel)
    exact ⟨table, first⟩

end Sql

end UniversalQuery
