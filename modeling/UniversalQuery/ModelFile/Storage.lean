import UniversalQuery.FileTree
import UniversalQuery.ModelFile.Encoding
import UniversalQuery.ModelFile.Node

set_option autoImplicit false

/-! Model files on disk. The extension of a file decides its format. -/

namespace UniversalQuery

/-- The formats of model files. -/
inductive ModelFormat where
  | yaml
  | json
deriving DecidableEq, Repr

/-- Why a model file cannot be loaded, saved or built. -/
inductive ModelFileError where
  | file (error : FileError)
  | malformed (format : ModelFormat)
  | invalid (error : SchemaError)
  | unsupportedExtension (path : String)
deriving DecidableEq, Repr

/-- The wording of an error. What is wrong in a malformed file is not said. -/
def ModelFileError.message : ModelFileError → String
  | .file error => "I/O error: " ++ error.message
  | .malformed .yaml => "YAML error:"
  | .malformed .json => "JSON error:"
  | .invalid error => "invalid model: " ++ error.message
  | .unsupportedExtension path => "unsupported model file extension: " ++ path

namespace ModelFormat

/-- What follows the last dot of a file name that does not begin with it. -/
def extension? (name : List Char) : Option (List Char) :=
  let after := name.reverse.takeWhile (· != '.')
  match name.reverse.dropWhile (· != '.') with
  | [] => none
  | [_] => none
  | _ => some after.reverse

/-- The format of a file, by its extension. -/
def ofPath? (path : String) : Option ModelFormat := do
  let name ← (FileTree.namesOf path).getLast?
  if name = ".." then none
  else
    let extension := String.ofList (← extension? name.toList)
    if extension = "yml" ∨ extension = "yaml" then some .yaml
    else if extension = "json" then some .json
    else none

end ModelFormat

namespace ModelFile

def ofText? (format : ModelFormat) (text : String) : Option ModelFile :=
  match format with
  | .yaml => ofYamlText? text
  | .json => ofJsonText? text

def text (file : ModelFile) (format : ModelFormat) : String :=
  match format with
  | .yaml => file.yamlText
  | .json => file.jsonText

/-- Loads a model file. A directory can be opened, but there is no model in it. -/
def load (read : String → Except FileError String) (path : String) :
    Except ModelFileError ModelFile :=
  match ModelFormat.ofPath? path with
  | none => .error (.unsupportedExtension path)
  | some format =>
    match read path with
    | .error .isADirectory => .error (.malformed format)
    | .error error => .error (.file error)
    | .ok text =>
      match ofText? format text with
      | some file => .ok file
      | none => .error (.malformed format)

def save (file : ModelFile) (tree : FileTree) (path : String) :
    Except ModelFileError FileTree :=
  match ModelFormat.ofPath? path with
  | none => .error (.unsupportedExtension path)
  | some format => (tree.write path (file.text format)).mapError .file

/-- The model of a file, or the first problem of it. -/
def model (file : ModelFile) : Except ModelFileError Model :=
  file.build.mapError .invalid

end ModelFile

end UniversalQuery
