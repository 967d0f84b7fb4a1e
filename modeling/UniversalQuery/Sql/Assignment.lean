import UniversalQuery.Query.SnakeCase
import UniversalQuery.Sql.Predicate

set_option autoImplicit false

/-! Assignments of an update. A plain key assigns a column; the dotted keys of a JSON column change
parts of its value and make one assignment together. -/

namespace UniversalQuery.Sql

/-- A new value at a path into a JSON column. -/
structure AttributeUpdate where
  segments : List String
  value : Value

/-- An assignment to a column. -/
inductive Assignment where
  | plain (column : String) (type : FieldType) (value : Value)
  /-- The column gets its own value with parts replaced, one after the other. -/
  | attributes (column : String) (updates : List AttributeUpdate)

namespace Assignment

def column : Assignment → String
  | .plain column _ _ => column
  | .attributes column _ => column

def ofPlain? (schema : Schema) (field : String × Value) : Option Assignment :=
  if (FieldPath.ofKey field.1).isPlain then
    (schema.writableType? field.1).map fun type => .plain field.1 type field.2
  else none

/-- The column and the change of a dotted key into a writable JSON column. -/
def attribute? (schema : Schema) (field : String × Value) : Option (String × AttributeUpdate) :=
  let path := FieldPath.ofKey field.1
  if path.isPlain then none
  else if schema.writableType? path.root = some .json then
    some (path.root, ⟨path.segments, field.2⟩)
  else none

def addAttribute (groups : Entries (List AttributeUpdate))
    (change : String × AttributeUpdate) : Entries (List AttributeUpdate) :=
  Entries.put groups change.1 (((Entries.get? groups change.1).getD []) ++ [change.2])

/-- Changes by column, in the order in which the columns first come. -/
def grouped (changes : List (String × AttributeUpdate)) : Entries (List AttributeUpdate) :=
  changes.foldl addAttribute []

/-- The assignments of a record in snake case: the plain keys in order, then the JSON columns with
changed parts. The primary key is never among the keys. -/
def ofFields (schema : Schema) (fields : Document) : List Assignment :=
  let assignable := fields.filter fun field => field.1 != schema.primaryKey
  assignable.filterMap (ofPlain? schema) ++
    (grouped (assignable.filterMap (attribute? schema))).map fun group =>
      .attributes group.1 group.2

/-! ## Text -/

/-- The literal of a path, the segments as an array. -/
def pathLiteral (segments : List String) : String :=
  quote ("\x7b" ++ ",".intercalate segments ++ "\x7d")

def attributeText (expression : String) (update : AttributeUpdate) : String :=
  "jsonb_set(" ++ expression ++ ", " ++ pathLiteral update.segments ++ ", " ++
    jsonLiteral update.value ++ "::jsonb)"

def text : Assignment → String
  | .plain column type value => column ++ "=" ++ literal type value
  | .attributes column updates =>
    column ++ "=" ++ updates.foldl attributeText (column ++ "::jsonb")

end Assignment

end UniversalQuery.Sql
