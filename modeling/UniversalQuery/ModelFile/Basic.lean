import UniversalQuery.Schema.Model

set_option autoImplicit false

/-! Model files: the definitions of tables, and the options for queries on them. -/

namespace UniversalQuery

/-- The definition of a table in a model file. Field names and type names are as they were given. -/
structure TableDefinition where
  name : String
  primaryKey : String
  fields : Entries String
deriving DecidableEq, Repr

/-- The options of a model file. -/
structure ModelOptions where
  qualify : Qualify
  unknownFields : UnknownFields
deriving DecidableEq, Repr

def ModelOptions.default : ModelOptions := ⟨.auto, .reject⟩

/-- What a model file says. -/
structure ModelFile where
  tables : List TableDefinition
  options : ModelOptions
deriving DecidableEq, Repr

namespace TableDefinition

def problem? (definition : TableDefinition) : Option SchemaError :=
  Table.definitionProblem? definition.name definition.fields

/-- The table of a definition, or the first problem of it. -/
def build (definition : TableDefinition) : Except SchemaError Table :=
  (Table.define definition.name definition.fields).map (·.withPrimaryKey definition.primaryKey)

end TableDefinition

namespace ModelFile

/-- The tables of all definitions, or the first problem of them. -/
def buildTables (file : ModelFile) : Except SchemaError (List Table) :=
  file.tables.mapM TableDefinition.build

/-- The model of a file, or the first problem of it. -/
def build (file : ModelFile) : Except SchemaError Model := do
  let tables ← file.buildTables
  let model ← Model.ofTables tables
  .ok (model.withQualify file.options.qualify)

/-- The problems of a file: the first one of every table, in table order. Only if there is none, the
tables are checked as a whole. -/
def problems (file : ModelFile) : List SchemaError :=
  match file.tables.filterMap TableDefinition.problem? with
  | [] =>
    match file.buildTables with
    | .ok tables => (Model.problem? tables).toList
    | .error problem => [problem]
  | problems => problems

end ModelFile

end UniversalQuery
