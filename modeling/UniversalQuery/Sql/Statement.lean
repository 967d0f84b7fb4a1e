import UniversalQuery.Sql.Assignment
import UniversalQuery.Sql.Order

set_option autoImplicit false

/-! Statements. A query is brought into snake case and compiled to a statement, which does not yet
say how column references are written; the text of the statement does. -/

namespace UniversalQuery.Sql

/-- A column with the value that an insertion gives it. -/
structure InsertedField where
  column : String
  type : FieldType
  value : Value

/-- A statement about the target table. -/
inductive Statement where
  | select (conditions : List Condition) (order : List OrderEntry)
  | count (conditions : List Condition)
  | insert (fields : List InsertedField)
  | update (assignments : List Assignment) (conditions : List Condition)
  | updateByKey (assignments : List Assignment)
  | remove (conditions : List Condition)
  | removeByKey

/-! ## Compiling -/

def queryConditions (schema : Schema) (policy : UnknownFields) (query : Query) :
    Except CompileError (List Condition) :=
  classifyOptional schema policy query.snakeCased.condition

def queryOrder (schema : Schema) (policy : UnknownFields) (query : Query) :
    Except CompileError (List OrderEntry) :=
  knownOrder schema policy (query.snakeCased.order.getD [])

/-- The names in a record that are writable columns, in order. -/
def knownFields (schema : Schema) (record : Document) : List String :=
  (Entries.names record).filter fun name => (schema.writableType? name).isSome

/-- The columns of a record that an insertion writes, in order. -/
def insertedFields (schema : Schema) (record : Document) : List InsertedField :=
  record.snakeCased.filterMap fun field =>
    (schema.writableType? field.1).map fun type => ⟨field.1, type, field.2⟩

def assignments (schema : Schema) (record : Document) : List Assignment :=
  Assignment.ofFields schema record.snakeCased

namespace Statement

/-- All rows that meet the condition, in order. -/
def ofSelect (schema : Schema) (policy : UnknownFields) (query : Query) :
    Except CompileError Statement := do
  let conditions ← queryConditions schema policy query
  let order ← queryOrder schema policy query
  .ok (.select conditions order)

def ofCount (schema : Schema) (policy : UnknownFields) (query : Query) :
    Except CompileError Statement :=
  (queryConditions schema policy query).map .count

/-- The insertion of a record, unless no column of it is writable. -/
def ofInsert? (schema : Schema) (record : Document) : Option Statement :=
  match insertedFields schema record with
  | [] => none
  | fields => some (.insert fields)

/-- The update of all rows that meet the condition, unless there is nothing to assign. -/
def ofUpdate (schema : Schema) (policy : UnknownFields) (query : Query) (record : Document) :
    Except CompileError (Option Statement) :=
  match assignments schema record with
  | [] => .ok none
  | changes => (queryConditions schema policy query).map fun conditions =>
    some (.update changes conditions)

/-- The update of the row with a given key, unless there is nothing to assign. -/
def ofUpdateByKey? (schema : Schema) (record : Document) : Option Statement :=
  match assignments schema record with
  | [] => none
  | changes => some (.updateByKey changes)

def ofRemove (schema : Schema) (policy : UnknownFields) (query : Query) :
    Except CompileError Statement :=
  (queryConditions schema policy query).map .remove

/-! ## Text -/

def keyClause (schema : Schema) : String :=
  let column :=
    if schema.qualifies then schema.table ++ "." ++ schema.primaryKey else schema.primaryKey
  " WHERE " ++ column ++ "=" ++ placeholder

def assignmentList (assignments : List Assignment) : String :=
  ", ".intercalate (assignments.map Assignment.text)

def text (schema : Schema) : Statement → String
  | .select conditions order =>
    "SELECT * FROM " ++ schema.table ++ whereClause schema conditions ++ orderClause schema order
  | .count conditions => "SELECT COUNT(*) FROM " ++ schema.table ++ whereClause schema conditions
  | .insert fields =>
    "INSERT INTO " ++ schema.table ++ " (" ++ ", ".intercalate (fields.map (·.column)) ++
      ") VALUES (" ++ ", ".intercalate (fields.map fun field => literal field.type field.value) ++
      ")"
  | .update assignments conditions =>
    "UPDATE " ++ schema.table ++ " SET " ++ assignmentList assignments ++
      whereClause schema conditions
  | .updateByKey assignments =>
    "UPDATE " ++ schema.table ++ " SET " ++ assignmentList assignments ++ keyClause schema
  | .remove conditions => "DELETE FROM " ++ schema.table ++ whereClause schema conditions
  | .removeByKey => "DELETE FROM " ++ schema.table ++ keyClause schema

end Statement

end UniversalQuery.Sql
