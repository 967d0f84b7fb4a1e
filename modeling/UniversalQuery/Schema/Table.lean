import UniversalQuery.Entries
import UniversalQuery.Schema.Error
import UniversalQuery.Schema.FieldType
import UniversalQuery.SnakeCase
import UniversalQuery.Text.Blank

set_option autoImplicit false

/-! Tables and their definitions. A definition names the type of every field; the columns of a table
are its fields in snake case. -/

namespace UniversalQuery

/-- A table: its columns with their types, in order. -/
structure Table where
  name : String
  primaryKey : String
  fields : Entries FieldType
deriving DecidableEq, Repr

namespace Table

def defaultPrimaryKey : String := "id"

/-! ## Definitions -/

/-- The first problem in the fields of a definition, given the columns of the fields before. -/
def fieldProblem? (table : String) (seen : List String) :
    List (String × String) → Option SchemaError
  | [] => none
  | (field, type) :: rest =>
    if Text.isBlank field then some (.emptyFieldName table)
    else if (FieldType.ofName? type).isNone then some (.unknownType field type)
    else if snakeKey field ∈ seen then some (.duplicateField (snakeKey field))
    else fieldProblem? table (snakeKey field :: seen) rest

def definitionProblem? (name : String) (definition : Entries String) : Option SchemaError :=
  if Text.isBlank name then some .emptyTableName
  else if definition = [] then some (.missingDefinition name)
  else fieldProblem? name [] definition

def columns (definition : Entries String) : Entries FieldType :=
  Entries.ofPairs <| definition.filterMap fun field =>
    (FieldType.ofName? field.2).map fun type => (snakeKey field.1, type)

/-- The table of a definition, or the first problem of it. -/
def define (name : String) (definition : Entries String) : Except SchemaError Table :=
  match definitionProblem? name definition with
  | some problem => .error problem
  | none => .ok ⟨name, defaultPrimaryKey, columns definition⟩

def ofFields (name : String) (fields : List (String × FieldType)) : Except SchemaError Table :=
  define name (Entries.ofPairs (fields.map fun field => (field.1, field.2.name)))

/-- The table with another primary key, which is a column name like the others. -/
def withPrimaryKey (table : Table) (key : String) : Table :=
  { table with primaryKey := snakeKey key }

/-! ## Look-up -/

def fieldType? (table : Table) (field : String) : Option FieldType :=
  Entries.get? table.fields field

def declares (table : Table) (field : String) : Bool :=
  Entries.has table.fields field

end Table

end UniversalQuery
