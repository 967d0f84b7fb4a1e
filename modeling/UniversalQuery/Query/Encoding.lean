import UniversalQuery.Json.Reader
import UniversalQuery.Json.Record
import UniversalQuery.Query.Basic

set_option autoImplicit false

/-! The JSON form of queries. -/

namespace UniversalQuery

/-! ## Reading -/

/-- The direction in a JSON value: its keyword, alone or as the key of a null. -/
def Direction.ofJson? : Json → Option Direction
  | .string text => ofKeyword? text
  | .object [(text, .null)] => ofKeyword? text
  | _ => none

/-- The entries of one map of fields to directions. A repeated field has its first place and its
last direction. -/
def OrderEntry.ofMembers? (members : List (String × Json)) : Option (List OrderEntry) := do
  let directions ← members.mapM fun member => (Direction.ofJson? member.2).map (member.1, ·)
  some ((Entries.ofPairs directions).map fun entry => ⟨entry.1, entry.2⟩)

def OrderEntry.ofMap? : Json → Option (List OrderEntry)
  | .object members => ofMembers? members
  | _ => none

/-- The order in a JSON value: a list of maps, whose entries follow one another, or one map. -/
def OrderEntry.listOfJson? : Json → Option (List OrderEntry)
  | .array items => (items.mapM ofMap?).map List.flatten
  | json => ofMap? json

/-- A part of a query. A null is no part. -/
def Query.part? {α : Type} (read : Json → Option α) : Option Json → Option (Option α)
  | none => some none
  | some .null => some none
  | some json => (read json).map some

def Document.ofJson? : Json → Option Document
  | .object members => some (Document.ofMembers members)
  | _ => none

namespace Query

def fieldNames : List String := ["where", "order"]

def ofParts? : List (Option Json) → Option Query
  | [condition, order] => do
    let condition ← part? Document.ofJson? condition
    let order ← part? OrderEntry.listOfJson? order
    some ⟨condition, order⟩
  | _ => none

/-- The query in a JSON value: an object with a condition and an order, or a list of the two. -/
def ofJson? : Json → Option Query
  | .object members => Record.ofMembers? fieldNames members >>= ofParts?
  | .array items => Record.ofItems? fieldNames items >>= ofParts?
  | _ => none

def shape : Json.Shape :=
  .record [("where", .whole), ("order", .whole)]

def ofText? (text : String) : Option Query :=
  Json.ofText? shape text >>= ofJson?

/-! ## Writing -/

def orderToJson (order : List OrderEntry) : Json :=
  .array (order.map fun entry => .object [(entry.field, .string entry.direction.keyword)])

/-- The JSON value of a query. Absent parts are left out. -/
def toJson (query : Query) : Json :=
  .object <|
    (query.condition.map fun document => ("where", (Value.object document).toJson)).toList ++
    (query.order.map fun order => ("order", orderToJson order)).toList

end Query

end UniversalQuery
