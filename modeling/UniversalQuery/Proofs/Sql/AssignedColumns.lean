import UniversalQuery.Proofs.SchemaNames
import UniversalQuery.Proofs.Sql.Meaning
import UniversalQuery.Sql.Statement

set_option autoImplicit false

/-! The columns that an update assigns. Plain keys are distinct and the dotted keys of a column make
one assignment, so a column comes twice exactly if it is assigned both as a whole and in part. -/

namespace UniversalQuery

namespace Sql

variable {schema : Schema} {policy : UnknownFields}

/-! ## Columns -/

/-- A JSON column is a key, and there are keys below it. -/
def Overlaps (schema : Schema) (fields : Document) : Prop :=
  ∃ key ∈ Entries.names fields,
    key ≠ schema.primaryKey ∧ (FieldPath.ofKey key).isPlain = false ∧
    schema.writableType? (rootField key) = some .json ∧
    rootField key ≠ schema.primaryKey ∧ rootField key ∈ Entries.names fields

def assignsWhole (schema : Schema) (key : String) : Bool :=
  key != schema.primaryKey && (FieldPath.ofKey key).isPlain && (schema.writableType? key).isSome

private theorem columns_plain (fields : Document) :
    ((fields.filter fun field => field.1 != schema.primaryKey).filterMap
      (Assignment.ofPlain? schema)).map Assignment.column =
        (Entries.names fields).filter (assignsWhole schema) := by
  induction fields with
  | nil => rfl
  | cons field rest ih =>
    obtain ⟨key, value⟩ := field
    by_cases same : key = schema.primaryKey
    · simpa [Entries.names, assignsWhole, same] using ih
    · by_cases plain : (FieldPath.ofKey key).isPlain = true
      · cases typed : schema.writableType? key with
        | none =>
          simpa [Entries.names, assignsWhole, same, Assignment.ofPlain?, plain, typed] using ih
        | some type =>
          simpa [Entries.names, assignsWhole, same, Assignment.ofPlain?, plain, typed,
            Assignment.column] using ih
      · simpa [Entries.names, assignsWhole, same, Assignment.ofPlain?, plain] using ih

private theorem mem_names_addAttribute (groups : Entries (List AttributeUpdate))
    (change : String × AttributeUpdate) (column : String) :
    column ∈ Entries.names (Assignment.addAttribute groups change) ↔
      column = change.1 ∨ column ∈ Entries.names groups :=
  Entries.mem_names_put groups change.1 column _

theorem mem_names_grouped (changes : List (String × AttributeUpdate)) (column : String) :
    column ∈ Entries.names (Assignment.grouped changes) ↔ column ∈ changes.map Prod.fst := by
  have collected : ∀ groups,
      column ∈ Entries.names (changes.foldl Assignment.addAttribute groups) ↔
        column ∈ Entries.names groups ∨ column ∈ changes.map Prod.fst := by
    induction changes with
    | nil => simp
    | cons change rest ih =>
      intro groups
      rw [List.foldl_cons, ih, mem_names_addAttribute, List.map_cons, List.mem_cons]
      tauto
  rw [Assignment.grouped, collected]
  simp [Entries.names]

/-- Changes of one column make one group. -/
theorem nodup_names_grouped (changes : List (String × AttributeUpdate)) :
    (Entries.names (Assignment.grouped changes)).Nodup := by
  have kept : ∀ groups : Entries (List AttributeUpdate), (Entries.names groups).Nodup →
      (Entries.names (changes.foldl Assignment.addAttribute groups)).Nodup := by
    induction changes with
    | nil => exact fun _ distinct => distinct
    | cons change rest ih =>
      exact fun groups distinct => ih _ (Entries.nodup_names_put distinct change.1 _)
  exact kept [] List.nodup_nil

/-- The columns that are assigned in part are those of the dotted keys into them. -/
theorem mem_parts {fields : Document} {column : String} :
    column ∈ Entries.names (Assignment.grouped
      ((fields.filter fun field => field.1 != schema.primaryKey).filterMap
        (Assignment.attribute? schema))) ↔
      ∃ key ∈ Entries.names fields, key ≠ schema.primaryKey ∧
        (FieldPath.ofKey key).isPlain = false ∧
        schema.writableType? (rootField key) = some .json ∧ rootField key = column := by
  rw [mem_names_grouped]
  constructor
  · intro member
    obtain ⟨change, changed, rfl⟩ := List.mem_map.mp member
    obtain ⟨field, kept, changes⟩ := List.mem_filterMap.mp changed
    obtain ⟨inside, different⟩ := List.mem_filter.mp kept
    unfold Assignment.attribute? at changes
    dsimp only at changes
    split at changes
    · cases changes
    · rename_i dotted
      split at changes
      · rename_i json
        cases changes
        exact ⟨field.1, List.mem_map_of_mem inside, bne_iff_ne.mp different,
          by simpa using dotted, json, rfl⟩
      · cases changes
  · rintro ⟨key, named, different, dotted, json, rfl⟩
    obtain ⟨field, inside, rfl⟩ := List.mem_map.mp named
    refine List.mem_map.mpr ⟨(rootField field.1, ⟨(FieldPath.ofKey field.1).segments, field.2⟩),
      List.mem_filterMap.mpr ⟨field, ?_, ?_⟩, rfl⟩
    · exact List.mem_filter.mpr ⟨inside, bne_iff_ne.mpr different⟩
    · rw [rootField] at json
      simp [Assignment.attribute?, dotted, json, rootField]

theorem columns_ofFields (fields : Document) :
    (Assignment.ofFields schema fields).map Assignment.column =
      (Entries.names fields).filter (assignsWhole schema) ++
        Entries.names (Assignment.grouped
          ((fields.filter fun field => field.1 != schema.primaryKey).filterMap
            (Assignment.attribute? schema))) := by
  rw [Assignment.ofFields, List.map_append, columns_plain]
  simp [Entries.names, Assignment.column]

theorem writable_of_mem_ofFields {fields : Document} {assignment : Assignment}
    (member : assignment ∈ Assignment.ofFields schema fields) :
    schema.HasWritable assignment.column := by
  have assigned : assignment.column ∈ (Assignment.ofFields schema fields).map Assignment.column :=
    List.mem_map_of_mem member
  rw [columns_ofFields, List.mem_append] at assigned
  rcases assigned with whole | part
  · obtain ⟨-, writable⟩ := List.mem_filter.mp whole
    simp only [assignsWhole, Bool.and_eq_true] at writable
    exact writable.2
  · obtain ⟨key, -, -, -, json, same⟩ := mem_parts.mp part
    rw [← same, Schema.HasWritable, json]
    rfl

/-- A column is assigned twice exactly if it is assigned as a whole and in part. -/
theorem nodup_columns_iff {fields : Document} (distinct : (Entries.names fields).Nodup) :
    ((Assignment.ofFields schema fields).map Assignment.column).Nodup ↔
      ¬ Overlaps schema fields := by
  rw [columns_ofFields, List.nodup_append]
  constructor
  · rintro ⟨-, -, apart⟩ ⟨key, named, different, dotted, json, free, whole⟩
    refine apart (rootField key) ?_ (rootField key) ?_ rfl
    · refine List.mem_filter.mpr ⟨whole, ?_⟩
      simp [assignsWhole, free, FieldPath.isPlain_rootField, json]
    · exact mem_parts.mpr ⟨key, named, different, dotted, json, rfl⟩
  · intro separate
    -- Neither kind of assignment repeats a column, so only a column of both kinds comes twice.
    refine ⟨distinct.filter _, nodup_names_grouped _, ?_⟩
    rintro column whole _ part rfl
    obtain ⟨named, assigned⟩ := List.mem_filter.mp whole
    obtain ⟨key, inside, different, dotted, json, rfl⟩ := mem_parts.mp part
    simp only [assignsWhole, Bool.and_eq_true, bne_iff_ne] at assigned
    exact separate ⟨key, inside, different, dotted, json, assigned.1.1, named⟩

/-! ## Updates -/

inductive Updated (schema : Schema) (policy : UnknownFields) (record : Document) :
    Statement → Prop where
  | byCondition {query : Query} {statement : Statement} :
      Statement.ofUpdate schema policy query record = .ok (some statement) →
      Updated schema policy record statement
  | byKey {statement : Statement} :
      Statement.ofUpdateByKey? schema record = some statement →
      Updated schema policy record statement

inductive Picks (schema : Schema) (policy : UnknownFields) : String → Prop where
  | byCondition {query : Query} {conditions : List Condition} :
      queryConditions schema policy query = .ok conditions →
      Picks schema policy (whereClause schema conditions)
  | byKey : Picks schema policy (Statement.keyClause schema)

theorem ofUpdateByKey?_of_ne_nil {record : Document} (nonempty : assignments schema record ≠ []) :
    Statement.ofUpdateByKey? schema record = some (.updateByKey (assignments schema record)) := by
  unfold Statement.ofUpdateByKey?
  split
  · rename_i empty
    exact absurd empty nonempty
  · rfl

theorem Updated.text_eq {record : Document} {statement : Statement}
    (updated : Updated schema policy record statement) :
    assignments schema record ≠ [] ∧ ∃ clause, Picks schema policy clause ∧
      statement.text schema = "UPDATE " ++ schema.table ++ " SET " ++
        Statement.assignmentList (assignments schema record) ++ clause := by
  cases updated with
  | byCondition compiled =>
    unfold Statement.ofUpdate at compiled
    split at compiled
    · cases compiled
    · rename_i nonempty
      obtain ⟨conditions, known, same⟩ := exists_of_map_eq_ok compiled
      cases same
      exact ⟨nonempty, _, .byCondition known, rfl⟩
  | byKey compiled =>
    unfold Statement.ofUpdateByKey? at compiled
    split at compiled
    · cases compiled
    · rename_i nonempty
      cases compiled
      exact ⟨nonempty, _, .byKey, rfl⟩

def Assignment.expression : Assignment → String
  | .plain _ type value => literal type value
  | .attributes column updates => updates.foldl Assignment.attributeText (column ++ "::jsonb")

theorem Assignment.text_eq (assignment : Assignment) :
    assignment.text = assignment.column ++ "=" ++ assignment.expression := by
  cases assignment <;> rfl

/-- The columns that an update assigns are distinct unless the record assigns a JSON column both as
a whole and in part. -/
theorem distinct_targets_iff {record : Document} {statement : Statement}
    (updated : Updated schema policy record statement) :
    (∃ clause, Picks schema policy clause ∧
      statement.text schema = "UPDATE " ++ schema.table ++ " SET " ++
        ", ".intercalate ((assignments schema record).map fun assignment =>
          assignment.column ++ "=" ++ assignment.expression) ++ clause) ∧
    (((assignments schema record).map Assignment.column).Nodup ↔
      ¬ Overlaps schema record.snakeCased) := by
  obtain ⟨-, clause, picks, text⟩ := updated.text_eq
  refine ⟨⟨clause, picks, ?_⟩, nodup_columns_iff (Entries.nodup_names_ofPairs _)⟩
  have list : Statement.assignmentList (assignments schema record) =
      ", ".intercalate ((assignments schema record).map fun assignment =>
        assignment.column ++ "=" ++ assignment.expression) := by
    rw [Statement.assignmentList, funext Assignment.text_eq]
  rw [text, list]

/-- A job that is given as a whole and in part. -/
def promotion : Document :=
  [("job", .object [("title", .string "clerk")]), ("job.title", .string "chief")]

theorem distinct_targets_iff_promotion :
    (∃ clause, Picks people.schema .reject clause ∧
      Statement.text people.schema (.updateByKey (assignments people.schema promotion)) =
        "UPDATE people SET " ++
          ", ".intercalate ((assignments people.schema promotion).map fun assignment =>
            assignment.column ++ "=" ++ assignment.expression) ++ clause) ∧
    (((assignments people.schema promotion).map Assignment.column).Nodup ↔
      ¬ Overlaps people.schema promotion.snakeCased) := by
  have columns : (assignments people.schema promotion).map Assignment.column = ["job", "job"] := by
    decide +kernel
  have nonempty : assignments people.schema promotion ≠ [] := by
    intro empty
    rw [empty] at columns
    cases columns
  exact distinct_targets_iff (.byKey (ofUpdateByKey?_of_ne_nil nonempty))

theorem not_nodup_columns_promotion :
    (Statement.ofUpdateByKey? people.schema promotion).map (Statement.text people.schema) =
      some ("UPDATE people SET job='\x7b\"title\":\"clerk\"\x7d', " ++
        "job=jsonb_set(job::jsonb, '\x7btitle\x7d', '\"chief\"'::jsonb) " ++
        "WHERE id=\x7bidPlaceHolder\x7d") ∧
    ¬ ((assignments people.schema promotion).map Assignment.column).Nodup := by
  constructor
  · decide +kernel
  · decide +kernel

end Sql

end UniversalQuery
