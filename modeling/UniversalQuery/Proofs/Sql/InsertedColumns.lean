import Mathlib.Data.List.Basic
import Mathlib.Data.List.Forall2
import Mathlib.Data.List.Induction
import UniversalQuery.Sql.Statement

set_option autoImplicit false

/-! The columns of an insertion. They are the columns of the target table that the keys of the
record name in snake case, in the order in which they first come; each gets the last value that
the record has for it. -/

namespace UniversalQuery

/-- The columns that the keys of a record name, one for each key. -/
def Document.columns (record : Document) : List String :=
  (Entries.names record).map snakeKey

namespace Entries

variable {α : Type}

private theorem ofPairs_concat (pairs : List (String × α)) (pair : String × α) :
    ofPairs (pairs ++ [pair]) = put (ofPairs pairs) pair.1 pair.2 := by
  simp [ofPairs, putAll]

/-- The names of a map stand in the order in which they first come. -/
theorem pairwise_names_ofPairs (pairs : List (String × α)) :
    (names (ofPairs pairs)).Pairwise fun left right =>
      (names pairs).idxOf left < (names pairs).idxOf right := by
  -- From the end: what is put last leaves the places of the other names as they are.
  induction pairs using List.reverseRecOn with
  | nil => exact .nil
  | append_singleton rest pair ih =>
    obtain ⟨name, value⟩ := pair
    have grown : names (rest ++ [(name, value)]) = names rest ++ [name] := by simp [names]
    have known : ∀ other ∈ names (ofPairs rest), other ∈ names rest :=
      fun _ => mem_names_ofPairs.mp
    have before : (names (ofPairs rest)).Pairwise fun left right =>
        (names rest ++ [name]).idxOf left < (names rest ++ [name]).idxOf right := by
      refine ih.imp_of_mem fun {left right} first second ordered => ?_
      rwa [List.idxOf_append_of_mem (known left first),
        List.idxOf_append_of_mem (known right second)]
    rw [ofPairs_concat, names_put, grown]
    split
    · exact before
    · rename_i fresh
      rw [mem_names_ofPairs] at fresh
      rw [List.pairwise_append]
      refine ⟨before, List.pairwise_singleton _ name, fun other member last isLast => ?_⟩
      rw [List.mem_singleton.mp isLast, List.idxOf_append_of_mem (known other member),
        List.idxOf_append_of_notMem fresh]
      exact Nat.lt_add_right _ (List.idxOf_lt_length_of_mem (known other member))

end Entries

/-! ## Records in snake case -/

namespace Document

variable {record : Document} {column : String}

private theorem pairwise_names_snakeCased (record : Document) :
    (Entries.names record.snakeCased).Pairwise fun left right =>
      record.columns.idxOf left < record.columns.idxOf right := by
  have ordered := Entries.pairwise_names_ofPairs (snakeFields record)
  rwa [names_snakeFields] at ordered

/-- The last value that a record has for a column. -/
inductive LastValue : Document → String → Value → Prop where
  | intro {before after : Document} {key : String} {value : Value} {column : String} :
      snakeKey key = column → (∀ later ∈ after, snakeKey later.1 ≠ column) →
      LastValue (before ++ (key, value) :: after) column value

private theorem lastValue_of_mem_snakeCased {value : Value}
    (member : (column, value) ∈ record.snakeCased) :
    ∃ source, LastValue record column source ∧ source.snakeCased = value := by
  have found := Entries.get?_of_mem (Entries.nodup_names_ofPairs _) member
  rw [Entries.get?_ofPairs] at found
  obtain ⟨before, after, split, final⟩ := Entries.exists_of_getLast?_given found
  rw [snakeFields_eq_map] at split
  obtain ⟨former, rest, rfl, -, rest_eq⟩ := List.map_eq_append_iff.mp split
  obtain ⟨⟨key, source⟩, latter, rfl, pair, rfl⟩ := List.map_eq_cons_iff.mp rest_eq
  obtain ⟨named, converted⟩ := Prod.mk.inj pair
  refine ⟨source, .intro named fun later inside => ?_, converted⟩
  exact final _ (List.mem_map_of_mem inside)

end Document

/-! ## Columns and values of an insertion -/

namespace Sql

/-- The literal of the last value that a record has for a column of a table. -/
inductive LastLiteral (table : Table) (record : Document) (column : String) : String → Prop where
  | intro {type : FieldType} {value : Value} :
      table.fieldType? column = some type → record.LastValue column value →
      LastLiteral table record column (literal type value.snakeCased)

/-- The columns that a record gives values to in a table, and the literals of these values. -/
structure InsertedRow (table : Table) (record : Document) (columns literals : List String) :
    Prop where
  complete : ∀ column,
    column ∈ columns ↔ table.declares column = true ∧ column ∈ record.columns
  distinct : columns.Nodup
  ordered : columns.Pairwise fun left right =>
    record.columns.idxOf left < record.columns.idxOf right
  values : List.Forall₂ (LastLiteral table record) columns literals

theorem columns_insertedFields (schema : Schema) (record : Document) :
    (insertedFields schema record).map (·.column) = knownFields schema record.snakeCased := by
  unfold insertedFields knownFields
  induction record.snakeCased with
  | nil => rfl
  | cons field rest ih =>
    cases typed : schema.writableType? field.1 with
    | none => simpa [Entries.names, typed] using ih
    | some type => simpa [Entries.names, typed] using ih

variable {model : Model} {record : Document}

theorem mem_knownFields_iff {column : String} :
    column ∈ knownFields model.schema record.snakeCased ↔
      model.target.declares column = true ∧ column ∈ record.columns := by
  rw [knownFields, List.mem_filter, Document.mem_names_snakeCased, and_comm]
  rfl

private theorem lastLiteral_of_mem_insertedFields {field : InsertedField}
    (member : field ∈ insertedFields model.schema record) :
    LastLiteral model.target record field.column (literal field.type field.value) := by
  obtain ⟨⟨column, value⟩, inside, inserted⟩ := List.mem_filterMap.mp member
  obtain ⟨type, typed, rfl⟩ := Option.map_eq_some_iff.mp inserted
  obtain ⟨source, last, rfl⟩ := Document.lastValue_of_mem_snakeCased inside
  exact .intro typed last

theorem insertedRow_insertedFields (model : Model) (record : Document) :
    InsertedRow model.target record ((insertedFields model.schema record).map (·.column))
      ((insertedFields model.schema record).map fun field => literal field.type field.value) := by
  have columns := columns_insertedFields model.schema record
  constructor
  · intro column
    rw [columns, mem_knownFields_iff]
  · rw [columns]
    exact (Entries.nodup_names_ofPairs _).filter _
  · rw [columns]
    exact record.pairwise_names_snakeCased.filter _
  · rw [List.forall₂_map_left_iff, List.forall₂_map_right_iff, List.forall₂_same]
    exact fun field => lastLiteral_of_mem_insertedFields

theorem insertedFields_eq_nil_iff :
    insertedFields model.schema record = [] ↔
      ∀ key ∈ Entries.names record, model.target.declares (snakeKey key) = false := by
  have columns := columns_insertedFields model.schema record
  rw [← List.map_eq_nil_iff, columns, List.eq_nil_iff_forall_not_mem]
  simp only [mem_knownFields_iff, Document.columns, List.mem_map, not_and, Bool.eq_false_iff]
  constructor
  · intro none key member declared
    exact none _ declared ⟨key, member, rfl⟩
  · rintro none _ declared ⟨key, member, rfl⟩
    exact none key member declared

/-- A record is inserted with the columns of the target table that its keys name, whatever the
other tables declare. There is no insertion just if there are none. -/
theorem insertion_row (model : Model) (record : Document) :
    (Statement.ofInsert? model.schema record = none ↔
      ∀ key ∈ Entries.names record, model.target.declares (snakeKey key) = false) ∧
    ∀ statement, Statement.ofInsert? model.schema record = some statement →
      ∃ columns literals, columns ≠ [] ∧ InsertedRow model.target record columns literals ∧
        statement.text model.schema = "INSERT INTO " ++ model.target.name ++ " (" ++
          ", ".intercalate columns ++ ") VALUES (" ++ ", ".intercalate literals ++ ")" := by
  constructor
  · rw [← insertedFields_eq_nil_iff]
    unfold Statement.ofInsert?
    split
    · rename_i empty
      simp [empty]
    · rename_i nonempty
      simpa using nonempty
  · intro statement compiled
    unfold Statement.ofInsert? at compiled
    split at compiled
    · cases compiled
    · rename_i nonempty
      cases compiled
      refine ⟨_, _, ?_, insertedRow_insertedFields model record, rfl⟩
      simpa using nonempty

def staffModel : Model :=
  ⟨⟨"people", "id", [("last_name", .string), ("age", .integer)]⟩,
   [⟨"jobs", "id", [("title", .string)]⟩], .auto⟩

/-- A record with two keys for one column, and with one that only the other table has. -/
def renamedRecord : Document :=
  [("lastName", .string "Vox"), ("title", .string "chief"), ("age", .int 23),
   ("last_name", .string "Wu")]

theorem insertion_row_renamed :
    (Statement.ofInsert? staffModel.schema renamedRecord).map (·.text staffModel.schema) =
      some "INSERT INTO people (last_name, age) VALUES ('Wu', 23)" ∧
    ∃ statement columns literals,
      Statement.ofInsert? staffModel.schema renamedRecord = some statement ∧
      InsertedRow staffModel.target renamedRecord columns literals ∧
      statement.text staffModel.schema = "INSERT INTO people (" ++ ", ".intercalate columns ++
        ") VALUES (" ++ ", ".intercalate literals ++ ")" := by
  have text : (Statement.ofInsert? staffModel.schema renamedRecord).map
      (·.text staffModel.schema) =
        some "INSERT INTO people (last_name, age) VALUES ('Wu', 23)" := by decide +kernel
  refine ⟨text, ?_⟩
  cases compiled : Statement.ofInsert? staffModel.schema renamedRecord with
  | none =>
    rw [compiled] at text
    cases text
  | some statement =>
    obtain ⟨columns, literals, -, row, written⟩ :=
      (insertion_row staffModel renamedRecord).2 statement compiled
    exact ⟨statement, columns, literals, rfl, row, written⟩

end Sql

end UniversalQuery
