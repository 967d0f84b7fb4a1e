import UniversalQuery.Proofs.Sql.SetList

set_option autoImplicit false

/-! The primary key in updates. It is never assigned as a whole, but dotted keys of a record can
change parts of it. -/

namespace UniversalQuery.Sql

variable {model : Model} {column : String}

theorem assignmentList_eq (assignments : List Assignment) :
    Statement.assignmentList assignments =
      ", ".intercalate (assignments.map fun assignment =>
        assignment.column ++ "=" ++ assignment.expression) := by
  rw [Statement.assignmentList, funext Assignment.text_eq]

theorem column_ne_primaryKey {record : Document} {type : FieldType} {value : Value}
    (member : .plain column type value ∈ assignments model.schema record) :
    column ≠ model.target.primaryKey := by
  obtain plain | part := List.mem_append.mp member
  · obtain ⟨⟨key, given⟩, kept, assigned⟩ := List.mem_filterMap.mp plain
    rw [ofPlain?_eq] at assigned
    split at assigned
    · obtain ⟨_, _, same⟩ := Option.map_eq_some_iff.mp assigned
      cases same
      exact bne_iff_ne.mp (List.mem_filter.mp kept).2
    · cases assigned
  · obtain ⟨_, _, same⟩ := List.mem_map.mp part
    cases same

theorem primaryKey_mem_columns_iff {record : Document} :
    model.target.primaryKey ∈ (assignments model.schema record).map Assignment.column ↔
      model.target.fieldType? model.target.primaryKey = some .json ∧
      ∃ key ∈ Entries.names record,
        '.' ∈ (snakeKey key).toList ∧ rootField (snakeKey key) = model.target.primaryKey := by
  have notWhole : model.target.primaryKey ∉
      (Entries.names record.snakeCased).filter (assignsWhole model.schema) := by
    intro whole
    have assigned := (List.mem_filter.mp whole).2
    simp [assignsWhole, Model.schema] at assigned
  rw [assignments, columns_ofFields, List.mem_append, or_iff_right notWhole, mem_parts]
  constructor
  · intro change
    obtain ⟨key, named, _, dotted, json, root⟩ := change
    rw [root] at json
    obtain ⟨given, inside, rfl⟩ := List.mem_map.mp (Document.mem_names_snakeCased.mp named)
    exact ⟨json, given, inside, FieldPath.isPlain_eq_false_iff.mp dotted, root⟩
  · intro change
    obtain ⟨json, key, inside, dotted, root⟩ := change
    have named := Document.mem_names_snakeCased.mpr (List.mem_map_of_mem inside)
    -- The primary key is a root field, so a key with a dot is another one.
    have different : snakeKey key ≠ model.schema.primaryKey := by
      intro same
      have plain := dot_not_mem_rootField (snakeKey key)
      rw [root] at plain
      rw [same] at dotted
      exact plain dotted
    refine ⟨_, named, different, FieldPath.isPlain_eq_false_iff.mpr dotted, ?_, root⟩
    rw [root]
    exact json

/-- An update never assigns the primary key as a whole. It assigns a part of it just if the key is a
JSON column and the record has a dotted key into it. -/
theorem assigns_primaryKey_iff {policy : UnknownFields} {record : Document} {statement : Statement}
    (updated : Updated model.schema policy record statement) :
    (∃ clause, Picks model.schema policy clause ∧
      statement.text model.schema = "UPDATE " ++ model.target.name ++ " SET " ++
        ", ".intercalate ((assignments model.schema record).map fun assignment =>
          assignment.column ++ "=" ++ assignment.expression) ++ clause) ∧
    (∀ column type value, .plain column type value ∈ assignments model.schema record →
      column ≠ model.target.primaryKey) ∧
    (model.target.primaryKey ∈ (assignments model.schema record).map Assignment.column ↔
      model.target.fieldType? model.target.primaryKey = some .json ∧
      ∃ key ∈ Entries.names record,
        '.' ∈ (snakeKey key).toList ∧ rootField (snakeKey key) = model.target.primaryKey) := by
  obtain ⟨-, clause, picks, text⟩ := updated.text_eq
  refine ⟨⟨clause, picks, ?_⟩, fun _ _ _ => column_ne_primaryKey, primaryKey_mem_columns_iff⟩
  rw [text, assignmentList_eq]
  rfl

/-- A table whose primary key is a JSON column. -/
def documents : Model :=
  .single ⟨"documents", "id", [("id", .json), ("name", .string)]⟩

/-- A record with the primary key, with a part of it and with another column. -/
def renamedDocument : Document :=
  [("id", .int 7), ("Id.part", .int 1), ("name", .string "Jon")]

theorem assigns_primaryKey_iff_renamedDocument :
    Statement.ofUpdateByKey? documents.schema renamedDocument =
      some (.updateByKey (assignments documents.schema renamedDocument)) ∧
    (documents.target.primaryKey ∈
        (assignments documents.schema renamedDocument).map Assignment.column ↔
      documents.target.fieldType? documents.target.primaryKey = some .json ∧
      ∃ key ∈ Entries.names renamedDocument,
        '.' ∈ (snakeKey key).toList ∧
          rootField (snakeKey key) = documents.target.primaryKey) := by
  have columns : (assignments documents.schema renamedDocument).map Assignment.column =
      ["name", "id"] := by decide +kernel
  have nonempty : assignments documents.schema renamedDocument ≠ [] := by
    intro empty
    rw [empty] at columns
    cases columns
  have compiled := ofUpdateByKey?_of_ne_nil nonempty
  have updated : Updated documents.schema .reject renamedDocument _ := .byKey compiled
  exact ⟨compiled, (assigns_primaryKey_iff updated).2.2⟩

theorem assigns_part_of_primaryKey :
    (Statement.ofUpdateByKey? documents.schema renamedDocument).map (·.text documents.schema) =
      some ("UPDATE documents SET name='Jon', id=jsonb_set(id::jsonb, '\x7bpart\x7d', " ++
        "'1'::jsonb) WHERE id=\x7bidPlaceHolder\x7d") ∧
    documents.target.primaryKey ∈
      (assignments documents.schema renamedDocument).map Assignment.column := by
  constructor
  · decide +kernel
  · decide +kernel

end UniversalQuery.Sql
