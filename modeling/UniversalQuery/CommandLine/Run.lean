import UniversalQuery.CommandLine.Arguments
import UniversalQuery.DocumentStore.Request
import UniversalQuery.ModelFile.Storage
import UniversalQuery.Query.Encoding
import UniversalQuery.Sql.Statement
import UniversalQuery.Text.Blank

set_option autoImplicit false

/-! Commands as functions of the files and of the standard input. -/

namespace UniversalQuery.CommandLine

abbrev ReadFile := String → Except FileError String

/-- Why a command fails. -/
inductive CommandError where
  | modelNotLoaded (path : String) (error : ModelFileError)
  | modelNotBuilt (path : String) (error : ModelFileError)
  | noSuchTable (name : String)
  | dataRequired
  | notRead (path : String) (error : FileError)
  | invalidQuery
  | invalidData
  | dataNotAnObject (path : String)
  | notCompiled (error : Sql.CompileError)
  | notFiltered (error : DocumentStore.FilterError)
  | invalidModels (count : Nat)
deriving DecidableEq, Repr

/-- The wording of an error. What is wrong in a malformed text is not said. -/
def CommandError.message : CommandError → String
  | .modelNotLoaded path error => "Failed to load model '" ++ path ++ "': " ++ error.message
  | .modelNotBuilt path error => "Model '" ++ path ++ "': " ++ error.message
  | .noSuchTable name => "Model has no table '" ++ name ++ "'"
  | .dataRequired => "--data is required for insert and update"
  | .notRead path error => "Failed to read '" ++ path ++ "': " ++ error.message
  | .invalidQuery => "Invalid query JSON:"
  | .invalidData => "Invalid data JSON:"
  | .dataNotAnObject path => "Data in '" ++ path ++ "' must be a JSON object"
  | .notCompiled error => error.message
  | .notFiltered error => error.message
  | .invalidModels count => Decimal.natText count ++ " invalid model file(s)"

/-- What a command leaves behind. -/
structure Outcome where
  exitCode : Nat
  output : String
  errors : String
deriving DecidableEq, Repr

def line (text : String) : String :=
  text ++ "\n"

namespace Outcome

def success (output : String) : Outcome := ⟨0, output, ""⟩

/-- The outcome of a command that fails after it has written some lines about errors. -/
def failure (before : String) (error : CommandError) : Outcome :=
  ⟨1, "", before ++ line ("error: " ++ error.message)⟩

end Outcome

/-! ## Compiling a query -/

/-- The query in a text. A blank text is the empty query. -/
def readQuery (text : String) : Except CommandError Query :=
  if Text.isBlank text then .ok .empty
  else match Query.ofText? text with
    | some query => .ok query
    | none => .error .invalidQuery

def readRecord (path text : String) : Except CommandError Document :=
  match (Json.read? text).map Value.ofJson with
  | none => .error .invalidData
  | some (.object fields) => .ok fields
  | some _ => .error (.dataNotAnObject path)

def readText (read : ReadFile) (path : String) : Except CommandError String :=
  (read path).mapError (.notRead path)

/-- The model of a request, with its target. -/
def targetModel (file : ModelFile) (request : Request) : Except CommandError Model := do
  let model ← file.model.mapError (.modelNotBuilt request.model)
  match request.table with
  | none => .ok model
  | some name =>
    match model.targeting? name with
    | some model => .ok model
    | none => .error (.noSuchTable name)

def requestedQuery (read : ReadFile) (input : String) (request : Request) :
    Except CommandError Query :=
  if request.operation.needsQuery then
    match request.query with
    | some path => readText read path >>= readQuery
    | none => readQuery input
  else .ok .empty

def requestedRecord (read : ReadFile) (request : Request) : Except CommandError Document :=
  if request.operation.needsData then
    match request.data with
    | some path => readText read path >>= readRecord path
    | none => .error .dataRequired
  else .ok []

/-- The statement of an operation, unless there is nothing to write. -/
def statement (model : Model) (policy : UnknownFields) (operation : Operation) (query : Query)
    (record : Document) : Except Sql.CompileError (Option Sql.Statement) :=
  match operation with
  | .select => (Sql.Statement.ofSelect model.schema policy query).map some
  | .count => (Sql.Statement.ofCount model.schema policy query).map some
  | .insert => .ok (Sql.Statement.ofInsert? model.schema record)
  | .update => Sql.Statement.ofUpdate model.schema policy query record
  | .remove => (Sql.Statement.ofRemove model.schema policy query).map some

def storeRequest (model : Model) (operation : Operation) (query : Query) (record : Document) :
    Except DocumentStore.FilterError Json :=
  match operation with
  | .select => (DocumentStore.find query).map (·.toJson)
  | .count | .remove => (DocumentStore.filterOptional query.condition).map .object
  | .insert => .ok (.object (DocumentStore.insertion record))
  | .update => (DocumentStore.update model.schema.primaryKey query record).map fun
    | some update => update.toJson
    | none => .null

/-- Compiles the query of a request. Where there is nothing to write, no statement is written, and a
null for the document store. -/
def transpile (read : ReadFile) (input : String) (request : Request) :
    Except CommandError String := do
  let file ← (ModelFile.load read request.model).mapError (.modelNotLoaded request.model)
  let model ← targetModel file request
  let query ← requestedQuery read input request
  let record ← requestedRecord read request
  match request.target with
  | .relational =>
    let statement ←
      (statement model file.options.unknownFields request.operation query record).mapError
        .notCompiled
    .ok ((statement.map fun statement => line (statement.text model.schema)).getD "")
  | .document =>
    let json ← (storeRequest model request.operation query record).mapError .notFiltered
    .ok (line json.pretty)

/-! ## Checking model files -/

/-- What is known about the model files that are checked. -/
structure Checked where
  lines : String
  invalid : Nat
  tables : Nat

def Checked.add (checked : Checked) (path : String) (file : ModelFile) : Checked :=
  match file.problems with
  | [] => { checked with tables := checked.tables + file.tables.length }
  | problems =>
    { checked with
      lines := checked.lines ++
        String.join (problems.map fun problem => line (path ++ ": " ++ problem.message))
      invalid := checked.invalid + 1 }

/-- Checks model files one after the other. The first that cannot be loaded ends the check. -/
def checkFiles (read : ReadFile) (checked : Checked) :
    List String → Except (Checked × CommandError) Checked
  | [] => .ok checked
  | path :: rest =>
    match ModelFile.load read path with
    | .error error => .error (checked, .modelNotLoaded path error)
    | .ok file => checkFiles read (checked.add path file) rest

def validate (read : ReadFile) (models : List String) : Outcome :=
  match checkFiles read ⟨"", 0, 0⟩ models with
  | .error (checked, error) => .failure checked.lines error
  | .ok checked =>
    if checked.invalid = 0 then
      .success <| line <|
        "Validated " ++ Decimal.natText models.length ++ " model file(s) with " ++
          Decimal.natText checked.tables ++ " table(s)."
    else .failure checked.lines (.invalidModels checked.invalid)

/-! ## Commands -/

def Command.run (read : ReadFile) (input : String) : Command → Outcome
  | .transpile request =>
    match CommandLine.transpile read input request with
    | .ok output => .success output
    | .error error => .failure "" error
  | .validate models => CommandLine.validate read models
  | .types => .success (String.join (FieldType.all.map fun type => line type.name))

def Command.paths : Command → List String
  | .transpile request => request.model :: (request.query.toList ++ request.data.toList)
  | .validate models => models
  | .types => []

def Command.readsInput : Command → Bool
  | .transpile request => request.operation.needsQuery && request.query.isNone
  | _ => false

end UniversalQuery.CommandLine
