import UniversalQuery.Json.Reader
import UniversalQuery.Json.Record
import UniversalQuery.ModelFile.Basic
import UniversalQuery.Yaml.Node

set_option autoImplicit false

/-! What a model file is read from: a tree in which JSON and YAML are alike. They differ in their
scalars. In YAML every scalar is a text and an empty one may stand for an empty list or record; in
JSON only strings are texts. -/

namespace UniversalQuery.ModelFile

/-- A node of the tree. -/
inductive Node where
  | text (content : String)
  /-- An absent value, which is also an empty text, list or record. -/
  | blank
  | null
  /-- A scalar that has no meaning in a model file. -/
  | other
  | list (items : List Node)
  | record (members : List (Node × Node))
deriving Inhabited

namespace Node

/-! ## Sources of nodes -/

mutual

def ofJson : Json → Node
  | .string content => .text content
  | .null => .null
  | .array items => .list (ofJsonItems items)
  | .object members => .record (ofJsonMembers members)
  | _ => .other

def ofJsonItems : List Json → List Node
  | [] => []
  | item :: rest => ofJson item :: ofJsonItems rest

def ofJsonMembers : List (String × Json) → List (Node × Node)
  | [] => []
  | (name, value) :: rest => (.text name, ofJson value) :: ofJsonMembers rest

end

mutual

def ofYaml : Yaml.Node → Node
  | .scalar content plain => if plain ∧ content = "" then .blank else .text content
  | .sequence items => .list (ofYamlItems items)
  | .mapping members => .record (ofYamlMembers members)

def ofYamlItems : List Yaml.Node → List Node
  | [] => []
  | item :: rest => ofYaml item :: ofYamlItems rest

def ofYamlMembers : List (Yaml.Node × Yaml.Node) → List (Node × Node)
  | [] => []
  | (name, value) :: rest => (ofYaml name, ofYaml value) :: ofYamlMembers rest

end

/-! ## Reading -/

def asText? : Node → Option String
  | .text content => some content
  | .blank => some ""
  | _ => none

def asList? : Node → Option (List Node)
  | .list items => some items
  | .blank => some []
  | _ => none

def asMembers? : Node → Option (List (String × Node))
  | .record members => members.mapM fun member => member.1.asText?.map (·, member.2)
  | .blank => some []
  | _ => none

/-- The given fields of a node, by name or by position. -/
def fields? (names : List String) : Node → Option (List (Option Node))
  | .list items => Record.ofItems? names items
  | node => node.asMembers? >>= Record.ofMembers? names

/-- A setting, by its name. The name may also be the key of a null. -/
def setting? {α : Type} (ofName? : String → Option α) : Node → Option α
  | .text name => ofName? name
  | .record [(.text name, .null)] => ofName? name
  | _ => none

def orElse {α : Type} (value : α) (read? : Node → Option α) : Option Node → Option α
  | none => some value
  | some node => read? node

end Node

def typeNames? (node : Node) : Option (Entries String) := do
  let members ← node.asMembers?
  let types ← members.mapM fun member => member.2.asText?.map (member.1, ·)
  some (Entries.ofPairs types)

/-- The definition of a table in a node. It has to have a name. -/
def tableOfNode? (node : Node) : Option TableDefinition := do
  match ← node.fields? ["name", "primary_key", "fields"] with
  | [some name, primaryKey, fields] =>
    let name ← name.asText?
    let primaryKey ← Node.orElse Table.defaultPrimaryKey Node.asText? primaryKey
    let fields ← Node.orElse [] typeNames? fields
    some ⟨name, primaryKey, fields⟩
  | _ => none

def optionsOfNode? (node : Node) : Option ModelOptions := do
  match ← node.fields? ["qualify", "unknown_fields"] with
  | [qualify, unknownFields] =>
    let qualify ← Node.orElse .auto (Node.setting? Qualify.ofName?) qualify
    let unknownFields ← Node.orElse .reject (Node.setting? UnknownFields.ofName?) unknownFields
    some ⟨qualify, unknownFields⟩
  | _ => none

/-- The model file in a node. It has to have tables. -/
def ofNode? (node : Node) : Option ModelFile := do
  match ← node.fields? ["tables", "options"] with
  | [some tables, options] =>
    let tables ← tables.asList? >>= (·.mapM tableOfNode?)
    let options ← Node.orElse .default optionsOfNode? options
    some ⟨tables, options⟩
  | _ => none

def ofYamlText? (text : String) : Option ModelFile :=
  Yaml.Node.ofText? text >>= fun node => ofNode? (.ofYaml node)

def shape : Json.Shape :=
  .record
    [("tables", .list (.record [("name", .whole), ("primary_key", .whole), ("fields", .whole)])),
     ("options", .record [("qualify", .whole), ("unknown_fields", .whole)])]

def ofJsonText? (text : String) : Option ModelFile :=
  Json.ofText? shape text >>= fun json => ofNode? (.ofJson json)

end UniversalQuery.ModelFile
