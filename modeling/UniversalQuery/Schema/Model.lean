import UniversalQuery.Schema.Table

set_option autoImplicit false

/-! Models: the tables that a query may touch, one of which is the target of statements. A schema is
what a model answers about fields. -/

namespace UniversalQuery

/-- When column references carry the name of their table. -/
inductive Qualify where
  | auto
  | always
  | never
deriving DecidableEq, Repr

namespace Qualify

def all : List Qualify := [.auto, .always, .never]

def name : Qualify → String
  | .auto => "auto"
  | .always => "always"
  | .never => "never"

def ofName? (name : String) : Option Qualify :=
  all.find? (·.name == name)

end Qualify

/-- What becomes of conditions and sort entries on fields that no table declares. -/
inductive UnknownFields where
  | reject
  | drop
deriving DecidableEq, Repr

namespace UnknownFields

def all : List UnknownFields := [.reject, .drop]

def name : UnknownFields → String
  | .reject => "reject"
  | .drop => "drop"

def ofName? (name : String) : Option UnknownFields :=
  all.find? (·.name == name)

end UnknownFields

/-- What the relational target asks about tables and fields. -/
structure Schema where
  /-- The table that statements are about. -/
  table : String
  primaryKey : String
  /-- The type of a field, unless the field is unknown. -/
  fieldType? : String → Option FieldType
  /-- The table that a field belongs to. -/
  owner? : String → Option String
  /-- The type of a column that statements may write. -/
  writableType? : String → Option FieldType
  /-- Whether column references carry the name of their table. -/
  qualifies : Bool

/-- Tables, the first of which is the target. -/
structure Model where
  target : Table
  others : List Table
  qualify : Qualify
deriving DecidableEq, Repr

namespace Model

def tables (model : Model) : List Table :=
  model.target :: model.others

def problem? (tables : List Table) : Option SchemaError :=
  if tables = [] then some .emptyModel
  else (Entries.firstRepeated? (tables.map Table.name)).map .duplicateTable

/-- The model of a list of tables, or the problem of it. -/
def ofTables (tables : List Table) : Except SchemaError Model :=
  match problem? tables, tables with
  | some problem, _ => .error problem
  | none, [] => .error .emptyModel
  | none, target :: others => .ok ⟨target, others, .auto⟩

def single (table : Table) : Model :=
  ⟨table, [], .auto⟩

def withQualify (model : Model) (qualify : Qualify) : Model :=
  { model with qualify }

def table? (model : Model) (name : String) : Option Table :=
  model.tables.find? (·.name == name)

/-- The model whose target is the table of a name. The other tables keep their order. -/
def targeting? (model : Model) (name : String) : Option Model :=
  (model.table? name).map fun table =>
    { model with target := table, others := model.tables.eraseP (·.name == name) }

def owner? (model : Model) (field : String) : Option Table :=
  model.tables.find? (·.declares field)

def fieldType? (model : Model) (field : String) : Option FieldType :=
  (model.owner? field).bind (·.fieldType? field)

def writableType? (model : Model) (field : String) : Option FieldType :=
  model.target.fieldType? field

theorem fieldType?_of_writableType? {model : Model} {field : String} {type : FieldType}
    (writable : model.writableType? field = some type) : model.fieldType? field = some type := by
  have declared : model.target.declares field = true :=
    Option.isSome_iff_exists.mpr ⟨type, writable⟩
  have owner : model.owner? field = some model.target :=
    List.find?_cons_of_pos declared
  rw [fieldType?, owner]
  exact writable

/-- Whether column references carry the name of their table. By default they do where there is more
than one table. -/
def qualifies (model : Model) : Bool :=
  match model.qualify with
  | .auto => !model.others.isEmpty
  | .always => true
  | .never => false

def schema (model : Model) : Schema where
  table := model.target.name
  primaryKey := model.target.primaryKey
  fieldType? := model.fieldType?
  owner? field := (model.owner? field).map Table.name
  writableType? := model.writableType?
  qualifies := model.qualifies

end Model

end UniversalQuery
