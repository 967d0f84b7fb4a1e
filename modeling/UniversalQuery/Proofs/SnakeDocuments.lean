import UniversalQuery.Proofs.SnakeRuns
import UniversalQuery.Proofs.TableColumns
import UniversalQuery.Query.SnakeCase
import UniversalQuery.Sql.Statement

set_option autoImplicit false

/-! Documents, queries and tables in snake case stay as they are when they are brought into snake
case again, so a statement is the same for a query and for its snake-case form. -/

namespace UniversalQuery

/-! ## Keys at every depth -/

mutual

def Value.keys : Value → List String
  | .array items => itemKeys items
  | .object fields => fieldKeys fields
  | _ => []

def itemKeys : List Value → List String
  | [] => []
  | item :: rest => item.keys ++ itemKeys rest

/-- The keys of a list of fields and of the values in it. -/
def fieldKeys : List (String × Value) → List String
  | [] => []
  | (key, value) :: rest => key :: (value.keys ++ fieldKeys rest)

end

theorem itemKeys_eq_flatMap (items : List Value) : itemKeys items = items.flatMap Value.keys := by
  induction items with
  | nil => rfl
  | cons item rest ih => rw [itemKeys, ih, List.flatMap_cons]

theorem fieldKeys_eq_flatMap (fields : Document) :
    fieldKeys fields = fields.flatMap fun field => field.1 :: field.2.keys := by
  induction fields with
  | nil => rfl
  | cons field rest ih =>
    obtain ⟨key, value⟩ := field
    rw [fieldKeys, ih, List.flatMap_cons, List.cons_append]

def Document.keys (document : Document) : List String :=
  fieldKeys document

/-- The keys of the condition, at every depth, and the fields of the order. -/
def Query.keys (query : Query) : List String :=
  (query.condition.map Document.keys).getD [] ++ (query.order.getD []).map (·.field)

/-! ## Documents -/

/-- A document in snake case has no keys left to convert and none left to merge. -/
theorem snakeCased_snakeCased_of_fields {fields : Document}
    (keys : ∀ field ∈ fields, IsSettling field.1)
    (values : ∀ field ∈ fields, field.2.snakeCased.snakeCased = field.2.snakeCased) :
    Document.snakeCased (Document.snakeCased fields) = Document.snakeCased fields := by
  have kept : snakeFields (Document.snakeCased fields) = Document.snakeCased fields := by
    have each : ∀ field ∈ Document.snakeCased fields,
        (snakeKey field.1, field.2.snakeCased) = field := by
      intro field member
      have converted := Entries.mem_of_mem_ofPairs member
      rw [snakeFields_eq_map] at converted
      obtain ⟨source, inside, rfl⟩ := List.mem_map.mp converted
      rw [snakeKey_snakeKey (keys source inside), values source inside]
    rw [snakeFields_eq_map, List.map_congr_left each, List.map_id']
  have distinct : (Entries.names (Document.snakeCased fields)).Nodup :=
    Entries.nodup_names_ofPairs _
  rw [Document.snakeCased, kept, Entries.ofPairs_of_nodup distinct]

theorem Value.snakeCased_snakeCased (value : Value) (settles : ∀ key ∈ value.keys, IsSettling key) :
    value.snakeCased.snakeCased = value.snakeCased := by
  induction value using Value.nestedInduction with
  | array items ih =>
    rw [Value.keys, itemKeys_eq_flatMap] at settles
    simp only [Value.snakeCased, snakeItems_eq_map, List.map_map]
    congr 1
    apply List.map_congr_left
    intro item member
    exact ih item member fun key inside =>
      settles key (List.mem_flatMap.mpr ⟨item, member, inside⟩)
  | object fields ih =>
    rw [Value.keys, fieldKeys_eq_flatMap] at settles
    apply congrArg Value.object
    apply snakeCased_snakeCased_of_fields
    · intro field member
      exact settles field.1 (List.mem_flatMap.mpr ⟨field, member, List.mem_cons_self⟩)
    · intro field member
      apply ih field member
      intro key inside
      exact settles key (List.mem_flatMap.mpr ⟨field, member, List.mem_cons_of_mem _ inside⟩)
  | null => rfl
  | bool => rfl
  | int => rfl
  | float => rfl
  | string => rfl
  | date => rfl

theorem Document.snakeCased_snakeCased {document : Document}
    (settles : ∀ key ∈ document.keys, IsSettling key) :
    document.snakeCased.snakeCased = document.snakeCased := by
  rw [Document.keys, fieldKeys_eq_flatMap] at settles
  apply snakeCased_snakeCased_of_fields
  · intro field member
    exact settles field.1 (List.mem_flatMap.mpr ⟨field, member, List.mem_cons_self⟩)
  · intro field member
    apply Value.snakeCased_snakeCased
    intro key inside
    exact settles key (List.mem_flatMap.mpr ⟨field, member, List.mem_cons_of_mem _ inside⟩)

theorem Query.snakeCased_snakeCased {query : Query} (settles : ∀ key ∈ query.keys, IsSettling key) :
    query.snakeCased.snakeCased = query.snakeCased := by
  obtain ⟨condition, order⟩ := query
  obtain ⟨conditionSettles, orderSettles⟩ := List.forall_mem_append.mp settles
  have conditions : (condition.map Document.snakeCased).map Document.snakeCased =
      condition.map Document.snakeCased := by
    cases condition with
    | none => rfl
    | some document => exact congrArg some (Document.snakeCased_snakeCased conditionSettles)
  have orders : (order.map (·.map OrderEntry.snakeCased)).map (·.map OrderEntry.snakeCased) =
      order.map (·.map OrderEntry.snakeCased) := by
    cases order with
    | none => rfl
    | some entries =>
      simp only [Option.map_some, List.map_map, Option.some.injEq]
      apply List.map_congr_left
      intro entry member
      have key := snakeKey_snakeKey (orderSettles entry.field (List.mem_map_of_mem member))
      simp [OrderEntry.snakeCased, key]
  simp only [Query.snakeCased, conditions, orders]

/-! ## Tables -/

/-- The columns of a table are in snake case. -/
theorem Table.snakeKey_column {name : String} {definition : Entries String} {table : Table}
    (settles : ∀ field ∈ Entries.names definition, IsSettling field)
    (accepted : Table.define name definition = .ok table) :
    ∀ column ∈ Entries.names table.fields, snakeKey column = column := by
  intro column member
  rw [Table.names_of_forall₂ (Table.forall₂_of_define accepted).1] at member
  obtain ⟨field, inside, rfl⟩ := List.mem_map.mp member
  exact snakeKey_snakeKey (settles field inside)

/-! ## Statements -/

namespace Sql

/-- Two queries ask for the same statements, whatever the schema and the record to write. -/
structure QueriesAlike (left right : Query) : Prop where
  select : ∀ schema policy,
    Statement.ofSelect schema policy left = Statement.ofSelect schema policy right
  count : ∀ schema policy,
    Statement.ofCount schema policy left = Statement.ofCount schema policy right
  remove : ∀ schema policy,
    Statement.ofRemove schema policy left = Statement.ofRemove schema policy right
  update : ∀ schema policy record,
    Statement.ofUpdate schema policy left record = Statement.ofUpdate schema policy right record

/-- Two records are written by the same statements, whatever the schema and the query. -/
structure RecordsAlike (left right : Document) : Prop where
  insert : ∀ schema, Statement.ofInsert? schema left = Statement.ofInsert? schema right
  updateByKey : ∀ schema,
    Statement.ofUpdateByKey? schema left = Statement.ofUpdateByKey? schema right
  update : ∀ schema policy query,
    Statement.ofUpdate schema policy query left = Statement.ofUpdate schema policy query right

/-- Statements see a query in snake case only. -/
theorem queriesAlike_of_snakeCased {left right : Query}
    (same : left.snakeCased = right.snakeCased) : QueriesAlike left right := by
  have conditions : ∀ schema policy,
      queryConditions schema policy left = queryConditions schema policy right := by
    intro schema policy
    rw [queryConditions, same, queryConditions]
  have orders : ∀ schema policy,
      queryOrder schema policy left = queryOrder schema policy right := by
    intro schema policy
    rw [queryOrder, same, queryOrder]
  constructor
  · intro schema policy
    rw [Statement.ofSelect, conditions, orders, Statement.ofSelect]
  · intro schema policy
    rw [Statement.ofCount, conditions, Statement.ofCount]
  · intro schema policy
    rw [Statement.ofRemove, conditions, Statement.ofRemove]
  · intro schema policy record
    rw [Statement.ofUpdate, conditions, Statement.ofUpdate]

/-- Statements see a record in snake case only. -/
theorem recordsAlike_of_snakeCased {left right : Document}
    (same : left.snakeCased = right.snakeCased) : RecordsAlike left right := by
  have inserted : ∀ schema, insertedFields schema left = insertedFields schema right := by
    intro schema
    rw [insertedFields, same, insertedFields]
  have assigned : ∀ schema, assignments schema left = assignments schema right := by
    intro schema
    rw [assignments, same, assignments]
  constructor
  · intro schema
    rw [Statement.ofInsert?, inserted, Statement.ofInsert?]
  · intro schema
    rw [Statement.ofUpdateByKey?, assigned, Statement.ofUpdateByKey?]
  · intro schema policy query
    rw [Statement.ofUpdate, assigned, Statement.ofUpdate]

end Sql

/-- Normal forms stay as they are. What is in snake case, be it a query, a record or a column, is
not changed by another pass, and statements do not tell it from what it was before. Only capital
letters without a small one are an exception, and there are none in ASCII. -/
theorem snakeCased_idempotent :
    (∀ key : String, (∀ c ∈ key.toList, c.toNat < 0x80) → IsSettling key) ∧
    (∀ query : Query, (∀ key ∈ query.keys, IsSettling key) →
      query.snakeCased.snakeCased = query.snakeCased ∧
        Sql.QueriesAlike query.snakeCased query) ∧
    (∀ record : Document, (∀ key ∈ record.keys, IsSettling key) →
      record.snakeCased.snakeCased = record.snakeCased ∧
        Sql.RecordsAlike record.snakeCased record) ∧
    (∀ (name : String) (definition : Entries String) (table : Table),
      (∀ field ∈ Entries.names definition, IsSettling field) →
      Table.define name definition = .ok table →
      ∀ column ∈ Entries.names table.fields, snakeKey column = column) := by
  refine ⟨?_, ?_, ?_, ?_⟩
  · intro key ascii c member
    exact Text.settles_ascii (ascii c member)
  · intro query settles
    have same := Query.snakeCased_snakeCased settles
    exact ⟨same, Sql.queriesAlike_of_snakeCased same⟩
  · intro record settles
    have same := Document.snakeCased_snakeCased settles
    exact ⟨same, Sql.recordsAlike_of_snakeCased same⟩
  · intro name definition table settles accepted
    exact Table.snakeKey_column settles accepted

def summerQuery : Query where
  condition := some
    [("dueDate", .object [("gte", .int 1)]), ("or", .array [.object [("ÉTÉ", .bool true)]])]
  order := some [⟨"lastName", .ascending⟩]

def movedRecord : Document :=
  [("lastName", .string "Vox"), ("homeAddress", .object [("zipCode", .int 1)]),
   ("last_name", .null)]

def serverDefinition : Entries String :=
  [("lastName", "string"), ("HTTPServer", "json")]

theorem snakeCased_idempotent_summer :
    (∀ key ∈ summerQuery.keys, IsSettling key) ∧
    summerQuery.snakeCased.snakeCased = summerQuery.snakeCased ∧
    Sql.QueriesAlike summerQuery.snakeCased summerQuery ∧
    (∀ key ∈ movedRecord.keys, IsSettling key) ∧
    movedRecord.snakeCased.snakeCased = movedRecord.snakeCased ∧
    Sql.RecordsAlike movedRecord.snakeCased movedRecord ∧
    ∃ table, Table.define "people" serverDefinition = .ok table ∧
      ∀ column ∈ Entries.names table.fields, snakeKey column = column := by
  obtain ⟨-, queries, records, tables⟩ := snakeCased_idempotent
  have querySettles : ∀ key ∈ summerQuery.keys, IsSettling key := by decide +kernel
  have recordSettles : ∀ key ∈ movedRecord.keys, IsSettling key := by decide +kernel
  have fieldsSettle : ∀ field ∈ Entries.names serverDefinition, IsSettling field := by
    decide +kernel
  have defines : (Table.define "people" serverDefinition).isOk = true := by decide +kernel
  obtain ⟨queryTwice, queryAlike⟩ := queries summerQuery querySettles
  obtain ⟨recordTwice, recordAlike⟩ := records movedRecord recordSettles
  cases defined : Table.define "people" serverDefinition with
  | error problem =>
    rw [defined] at defines
    cases defines
  | ok table =>
    have columns := tables "people" serverDefinition table fieldsSettle defined
    exact ⟨querySettles, queryTwice, queryAlike, recordSettles, recordTwice, recordAlike,
      table, rfl, columns⟩

end UniversalQuery
