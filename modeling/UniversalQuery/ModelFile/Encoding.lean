import UniversalQuery.Json.Writer
import UniversalQuery.ModelFile.Basic
import UniversalQuery.Yaml.Writer

set_option autoImplicit false

/-! The two written forms of a model file. Defaults are written too. -/

namespace UniversalQuery

/-! ## JSON -/

def TableDefinition.toJson (definition : TableDefinition) : Json :=
  .object
    [("name", .string definition.name),
     ("primary_key", .string definition.primaryKey),
     ("fields", .object (definition.fields.map fun field => (field.1, .string field.2)))]

def ModelOptions.toJson (options : ModelOptions) : Json :=
  .object
    [("qualify", .string options.qualify.name),
     ("unknown_fields", .string options.unknownFields.name)]

def ModelFile.toJson (file : ModelFile) : Json :=
  .object
    [("tables", .array (file.tables.map TableDefinition.toJson)), ("options", file.options.toJson)]

/-! ## YAML -/

def TableDefinition.toYaml (definition : TableDefinition) : Yaml.Block :=
  .record
    [("name", .text definition.name),
     ("primary_key", .text definition.primaryKey),
     ("fields", .record (definition.fields.map fun field => (field.1, .text field.2)))]

def ModelOptions.toYaml (options : ModelOptions) : Yaml.Block :=
  .record
    [("qualify", .text options.qualify.name),
     ("unknown_fields", .text options.unknownFields.name)]

def ModelFile.yamlText (file : ModelFile) : String :=
  Yaml.recordText
    [("tables", .list (file.tables.map TableDefinition.toYaml)), ("options", file.options.toYaml)]

/-- The text of a model file in JSON, on indented lines. -/
def ModelFile.jsonText (file : ModelFile) : String :=
  file.toJson.pretty

end UniversalQuery
