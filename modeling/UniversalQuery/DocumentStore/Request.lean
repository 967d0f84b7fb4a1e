import UniversalQuery.DocumentStore.Filter

set_option autoImplicit false

/-! Requests to a document store. -/

namespace UniversalQuery.DocumentStore

/-- The documents that meet a filter, in order. -/
structure Find where
  filter : Entries Json
  sort : Entries Json

/-- The update of all documents that meet a filter. -/
structure Update where
  filter : Entries Json
  values : Entries Json

def directionNumber : Direction → Int
  | .ascending => 1
  | .descending => -1

/-- The sort document of an order. A repeated field has its first place and its last direction. -/
def sortDocument (order : List OrderEntry) : Entries Json :=
  Entries.ofPairs (order.map fun entry => (entry.field, .int (directionNumber entry.direction)))

def find (query : Query) : Except FilterError Find := do
  let filter ← filterOptional query.condition
  .ok ⟨filter, sortDocument (query.order.getD [])⟩

def insertion (record : Document) : Entries Json :=
  Value.toJsonFields record

/-- The values that an update sets: all of a record but its primary key. -/
def updatedValues (primaryKey : String) (record : Document) : Entries Json :=
  Value.toJsonFields (record.filter fun field => field.1 != primaryKey)

/-- The update of the documents of a query, unless there is nothing to set. -/
def update (primaryKey : String) (query : Query) (record : Document) :
    Except FilterError (Option Update) :=
  match updatedValues primaryKey record with
  | [] => .ok none
  | values => (filterOptional query.condition).map fun filter => some ⟨filter, values⟩

def Find.toJson (find : Find) : Json :=
  .object [("query", .object find.filter), ("sort", .object find.sort)]

/-- The JSON value of an update, which is for all documents that meet the filter. -/
def Update.toJson (update : Update) : Json :=
  .object
    [("query", .object update.filter),
     ("update", .object [("$set", .object update.values)]),
     ("options", .object [("multi", .bool true)])]

end UniversalQuery.DocumentStore
