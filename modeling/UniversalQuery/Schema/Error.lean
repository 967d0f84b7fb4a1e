set_option autoImplicit false

/-! What can be wrong with a definition of tables. -/

namespace UniversalQuery

/-- A problem of a table definition or of a model. -/
inductive SchemaError where
  | missingDefinition (table : String)
  | emptyTableName
  | emptyFieldName (table : String)
  | unknownType (field type : String)
  | duplicateField (column : String)
  | duplicateTable (table : String)
  | emptyModel
deriving DecidableEq, Repr

def SchemaError.message : SchemaError → String
  | .missingDefinition table => "schema definition is missing for table: " ++ table
  | .emptyTableName => "table name cannot be empty"
  | .emptyFieldName table => "empty field name in table: " ++ table
  | .unknownType field type => type ++ " is not a known schema type (field: " ++ field ++ ")"
  | .duplicateField column => "duplicate field in table: " ++ column
  | .duplicateTable table => "duplicate table in model: " ++ table
  | .emptyModel => "model must define at least one table"

end UniversalQuery
