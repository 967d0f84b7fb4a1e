set_option autoImplicit false

/-! The catalogue of field types. -/

namespace UniversalQuery

/-- The declared type of a field. -/
inductive FieldType where
  | string
  | text
  | integer
  | decimal
  | boolean
  | date
  | json
  | uuid
deriving DecidableEq, Repr

namespace FieldType

/-- All types, in catalogue order. -/
def all : List FieldType :=
  [.string, .text, .integer, .decimal, .boolean, .date, .json, .uuid]

def name : FieldType → String
  | .string => "string"
  | .text => "text"
  | .integer => "integer"
  | .decimal => "decimal"
  | .boolean => "boolean"
  | .date => "date"
  | .json => "json"
  | .uuid => "uuid"

def ofName? (name : String) : Option FieldType :=
  all.find? (·.name == name)

def isTextual : FieldType → Bool
  | .string | .text | .uuid => true
  | _ => false

theorem ofName?_name (type : FieldType) : ofName? type.name = some type := by
  cases type <;> decide

theorem ofName?_eq_some_iff {name : String} {type : FieldType} :
    ofName? name = some type ↔ type.name = name := by
  constructor
  · intro found
    have named := List.find?_some found
    exact eq_of_beq named
  · intro named
    exact named ▸ ofName?_name type

end FieldType

end UniversalQuery
