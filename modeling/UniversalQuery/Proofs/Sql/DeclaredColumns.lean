import UniversalQuery.Proofs.SnakeSegments
import UniversalQuery.Proofs.Sql.AssignedColumns
import UniversalQuery.Proofs.Sql.ConditionGrammar
import UniversalQuery.Proofs.TableColumns

set_option autoImplicit false

/-! What queries make of declared columns. A definition may declare a column that is named like a
boolean operator, one with a dot in its name, and one that snake case changes again. No condition is
on a column of the first two kinds, and updates assign no column of the last two. -/

namespace UniversalQuery.Sql

variable {schema : Schema} {model : Model} {table : Table} {column : String} {type : FieldType}

/-! ## Conditions on columns -/

/-- The condition on a column itself, for a value that is no object. -/
def columnCondition (column : String) (type : FieldType) (value : Value) : Condition :=
  if type = .json then .containment column value else .equality column type value

theorem classifyEntry_column {value : Value} (whole : IsWholeField column)
    (known : schema.fieldType? column = some type) (noObject : value.asDocument? = none) :
    classifyEntry schema .reject column value =
      .ok (some (columnCondition column type value)) := by
  rw [classifyEntry_field (BooleanOperator.ofKey?_eq_none_iff.mpr whole.isField)]
  unfold columnCondition
  split
  · rename_i json
    exact classifyField_json whole.plain (json ▸ known) value
  · rename_i scalar
    exact classifyField_scalar whole.plain known scalar noObject

private theorem columnCondition_ne_boolean (value : Value) (operator : BooleanOperator)
    (groups : List (List Condition)) :
    columnCondition column type value ≠ .boolean operator groups := by
  unfold columnCondition
  split <;> exact Condition.noConfusion

private theorem columnCondition_ne_jsonPath (value other : Value) (path : FieldPath) :
    columnCondition column type value ≠ .jsonPath path other := by
  unfold columnCondition
  split <;> exact Condition.noConfusion

/-- A condition is on the column of its key only if the key is no operator and has no dot. -/
theorem isWholeField_of_columnCondition {value : Value}
    (classified : classifyEntry schema .reject column value =
      .ok (some (columnCondition column type value))) : IsWholeField column := by
  cases named : BooleanOperator.ofKey? column with
  | some operator =>
    obtain ⟨items, groups, -, -, same⟩ := classifyEntry_operator named classified
    exact absurd (Option.some.inj same) (columnCondition_ne_boolean value operator groups)
  | none =>
    have isField := BooleanOperator.ofKey?_eq_none_iff.mp named
    rw [classifyEntry_field named] at classified
    generalize outcome : some (columnCondition column type value) = condition at classified
    cases classifiedField classified with
    | dropped => cases outcome
    | path => exact absurd (Option.some.inj outcome) (columnCondition_ne_jsonPath value value _)
    | containment _ plain => exact ⟨isField, FieldPath.isPlain_iff.mp plain⟩
    | range _ plain => exact ⟨isField, FieldPath.isPlain_iff.mp plain⟩
    | equality _ plain => exact ⟨isField, FieldPath.isPlain_iff.mp plain⟩

/-! ## Assigned columns -/

/-- A record with a value for the column assigns it, whatever else is in the record. -/
def IsAssignable (schema : Schema) (column : String) : Prop :=
  ∀ record : Document, column ∈ Entries.names record →
    column ∈ (assignments schema record).map Assignment.column

theorem isAssignable_of_stable (writable : schema.writableType? column = some type)
    (different : column ≠ schema.primaryKey) (stable : snakeKey column = column)
    (plain : '.' ∉ column.toList) : IsAssignable schema column := by
  intro record given
  have kept : column ∈ Entries.names record.snakeCased := by
    have converted := List.mem_map_of_mem (f := snakeKey) given
    rw [stable] at converted
    exact Document.mem_names_snakeCased.mpr converted
  rw [assignments, columns_ofFields, List.mem_append]
  refine .inl (List.mem_filter.mpr ⟨kept, ?_⟩)
  simp [assignsWhole, different, FieldPath.isPlain_iff.mpr plain, writable]

/-- A column that a lone entry assigns is the key of the entry in snake case, since no part of a key
that is assigned in part has a dot in it. -/
theorem stable_of_isAssignable (assignable : IsAssignable schema column) :
    snakeKey column = column ∧ '.' ∉ column.toList := by
  have assigned := assignable [(column, .null)] List.mem_cons_self
  rw [assignments, columns_ofFields, List.mem_append] at assigned
  have names : Entries.names (Document.snakeCased [(column, .null)]) = [snakeKey column] := rfl
  rcases assigned with whole | part
  · obtain ⟨named, assigns⟩ := List.mem_filter.mp whole
    rw [names, List.mem_singleton] at named
    simp only [assignsWhole, Bool.and_eq_true] at assigns
    exact ⟨named.symm, FieldPath.isPlain_iff.mp assigns.1.2⟩
  · obtain ⟨key, named, -, dotted, -, root⟩ := mem_parts.mp part
    rw [names, List.mem_singleton] at named
    have inside : '.' ∈ column.toList := by
      rw [← dot_mem_snakeKey_iff, ← named]
      exact FieldPath.isPlain_eq_false_iff.mp dotted
    rw [← root] at inside
    exact absurd inside (dot_not_mem_rootField key)

/-! ## Declared columns -/

theorem writableType?_of_mem (targeted : model.target.fields = table.fields)
    (distinct : (Entries.names table.fields).Nodup) (declared : (column, type) ∈ table.fields) :
    model.schema.writableType? column = some type := by
  have found := Entries.get?_of_mem distinct declared
  rw [← targeted] at found
  exact found

/-- The columns of a table are the fields of its definition in snake case. Conditions are on a column
itself exactly if its name is no boolean operator and has no dot, and updates assign a column other
than the primary key exactly if its name has no dot and is its own form in snake case. -/
theorem declared_column_iff {name : String} {definition : Entries String} {table : Table}
    {model : Model} (accepted : Table.define name definition = .ok table)
    (targeted : model.target.fields = table.fields) :
    Entries.names table.fields = (Entries.names definition).map snakeKey ∧
    ∀ column type, (column, type) ∈ table.fields →
      (∀ value : Value, value.asDocument? = none →
        (classifyEntry model.schema .reject column value =
            .ok (some (columnCondition column type value)) ↔
          (∀ operator : BooleanOperator, column ≠ operator.key) ∧ '.' ∉ column.toList)) ∧
      (column ≠ model.target.primaryKey →
        (IsAssignable model.schema column ↔ snakeKey column = column ∧ '.' ∉ column.toList)) := by
  obtain ⟨each, distinct⟩ := Table.forall₂_of_define accepted
  refine ⟨Table.names_of_forall₂ each, ?_⟩
  intro column type declared
  have writable := writableType?_of_mem targeted distinct declared
  have known : model.schema.fieldType? column = some type :=
    Model.fieldType?_of_writableType? writable
  constructor
  · intro value noObject
    constructor
    · intro classified
      have whole := isWholeField_of_columnCondition classified
      exact ⟨whole.isField, whole.plain⟩
    · rintro ⟨isField, plain⟩
      exact classifyEntry_column ⟨isField, plain⟩ known noObject
  · intro different
    constructor
    · exact stable_of_isAssignable
    · rintro ⟨stable, plain⟩
      exact isAssignable_of_stable writable different stable plain

/-- Columns named like an operator and like a path, one that snake case changes again, and a common
one. -/
def oddDefinition : Entries String :=
  [("Or", "string"), ("job.title", "json"), ("ABℂ", "string"), ("lastName", "string")]

def oddTable : Table :=
  ⟨"people", "id",
    [("or", .string), ("job.title", .json), ("abℂ", .string), ("last_name", .string)]⟩

theorem define_oddDefinition : Table.define "people" oddDefinition = .ok oddTable := by
  decide +kernel

theorem declared_column_iff_odd :
    Table.define "people" oddDefinition = .ok oddTable ∧
    classifyEntry (Model.single oddTable).schema .reject "last_name" (.string "Doe") =
      .ok (some (columnCondition "last_name" .string (.string "Doe"))) ∧
    IsAssignable (Model.single oddTable).schema "last_name" := by
  have targeted : (Model.single oddTable).target.fields = oddTable.fields := rfl
  obtain ⟨-, each⟩ := declared_column_iff define_oddDefinition targeted
  obtain ⟨conditions, assigns⟩ := each "last_name" .string (by decide)
  have isField : ∀ operator : BooleanOperator, "last_name" ≠ operator.key := by
    intro operator
    cases operator <;> decide
  refine ⟨define_oddDefinition, (conditions (.string "Doe") rfl).mpr ⟨isField, by decide⟩, ?_⟩
  exact (assigns (by decide)).mpr ⟨by decide +kernel, by decide⟩

theorem not_queryable_odd :
    Table.define "people" oddDefinition = .ok oddTable ∧
    classifyEntry (Model.single oddTable).schema .reject "or" (.string "Doe") =
      .error (.invalidBooleanOperand .or) ∧
    classifyEntry (Model.single oddTable).schema .reject "job.title" (.string "clerk") =
      .error (.unresolvableField "job.title") ∧
    (assignments (Model.single oddTable).schema [("job.title", .string "clerk")]).map
      Assignment.column = [] ∧
    (assignments (Model.single oddTable).schema [("abℂ", .string "Doe")]).map
      Assignment.column = [] := by
  refine ⟨define_oddDefinition, rfl, rfl, ?_, ?_⟩
  · decide +kernel
  · decide +kernel

end UniversalQuery.Sql
