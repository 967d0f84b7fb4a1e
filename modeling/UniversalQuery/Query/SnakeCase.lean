import UniversalQuery.Query.Basic
import UniversalQuery.SnakeCase

set_option autoImplicit false

/-! Documents and queries with all their keys in snake case. Keys that become equal are one key,
with the first place and the last value. -/

namespace UniversalQuery

mutual

def Value.snakeCased : Value → Value
  | .array items => .array (snakeItems items)
  | .object fields => .object (Entries.ofPairs (snakeFields fields))
  | scalar => scalar

def snakeItems : List Value → List Value
  | [] => []
  | item :: rest => item.snakeCased :: snakeItems rest

/-- The fields of a document in snake case, before equal keys become one. -/
def snakeFields : List (String × Value) → List (String × Value)
  | [] => []
  | (key, value) :: rest => (snakeKey key, value.snakeCased) :: snakeFields rest

end

theorem snakeItems_eq_map (items : List Value) : snakeItems items = items.map Value.snakeCased := by
  induction items with
  | nil => rfl
  | cons item rest ih => simp [snakeItems, ih]

theorem snakeFields_eq_map (fields : Document) :
    snakeFields fields = fields.map fun field => (snakeKey field.1, field.2.snakeCased) := by
  induction fields with
  | nil => rfl
  | cons field rest ih => simp [snakeFields, ih]

theorem names_snakeFields (fields : Document) :
    Entries.names (snakeFields fields) = (Entries.names fields).map snakeKey := by
  simp [snakeFields_eq_map, Entries.names, Function.comp_def]

def Document.snakeCased (document : Document) : Document :=
  Entries.ofPairs (snakeFields document)

theorem Document.mem_names_snakeCased {document : Document} {key : String} :
    key ∈ Entries.names document.snakeCased ↔ key ∈ (Entries.names document).map snakeKey := by
  rw [Document.snakeCased, Entries.mem_names_ofPairs, names_snakeFields]

def OrderEntry.snakeCased (entry : OrderEntry) : OrderEntry :=
  { entry with field := snakeKey entry.field }

/-- A query with all keys in snake case. Entries of the order stay apart. -/
def Query.snakeCased (query : Query) : Query where
  condition := query.condition.map Document.snakeCased
  order := query.order.map (·.map OrderEntry.snakeCased)

end UniversalQuery
