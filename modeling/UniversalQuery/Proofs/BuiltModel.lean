import UniversalQuery.ModelFile.Basic
import UniversalQuery.Proofs.Outcomes
import UniversalQuery.Proofs.TableColumns

set_option autoImplicit false

/-! The model of a model file, and what is reported where there is none. A check reports the first
problem of every unsound definition; only where all are sound, it reports a problem of the tables
as a whole. Building a model fails with the first of these problems. -/

namespace UniversalQuery

/-! ## Tables of definitions -/

/-- A table has the name of its definition, and the primary key of it in snake case. -/
structure TableDefinition.Defines (definition : TableDefinition) (table : Table) : Prop where
  name : table.name = definition.name
  primaryKey : table.primaryKey = snakeKey definition.primaryKey

theorem TableDefinition.defines_of_build {definition : TableDefinition} {table : Table}
    (built : definition.build = .ok table) : definition.Defines table := by
  obtain ⟨defined, sound, rfl⟩ := exists_of_map_eq_ok built
  unfold Table.define at sound
  split at sound
  · cases sound
  · cases sound
    exact ⟨rfl, rfl⟩

theorem TableDefinition.names_of_defines {definitions : List TableDefinition}
    {tables : List Table} (defined : List.Forall₂ Defines definitions tables) :
    tables.map Table.name = definitions.map TableDefinition.name := by
  induction defined with
  | nil => rfl
  | cons head _ ih => rw [List.map_cons, List.map_cons, ih, head.name]

theorem Model.tables_of_ofTables {tables : List Table} {model : Model}
    (accepted : Model.ofTables tables = .ok model) : model.tables = tables := by
  unfold ofTables at accepted
  split at accepted
  · cases accepted
  · cases accepted
  · cases accepted
    rfl

theorem ModelFile.defines_of_build {file : ModelFile} {model : Model}
    (built : file.build = .ok model) :
    List.Forall₂ TableDefinition.Defines file.tables model.tables := by
  obtain ⟨tables, defined, tail⟩ := exists_of_bind_eq_ok built
  obtain ⟨plain, accepted, same⟩ := exists_of_bind_eq_ok tail
  cases same
  have kept : plain.tables = tables := Model.tables_of_ofTables accepted
  have each := forall₂_of_mapM_eq_ok defined
  change List.Forall₂ TableDefinition.Defines file.tables plain.tables
  rw [kept]
  exact each.imp fun _ _ => TableDefinition.defines_of_build

/-! ## Problems of one definition -/

namespace TableDefinition

/-- Whether a definition is valid on its own, whatever the other tables are. -/
def IsSound (definition : TableDefinition) : Prop :=
  Table.IsSoundDefinition definition.name definition.fields

theorem problem?_eq_none_iff {definition : TableDefinition} :
    definition.problem? = none ↔ definition.IsSound :=
  Table.definitionProblem?_eq_none_iff

instance (definition : TableDefinition) : Decidable definition.IsSound :=
  decidable_of_iff (definition.problem? = none) problem?_eq_none_iff

theorem build_eq_error_iff {definition : TableDefinition} {problem : SchemaError} :
    definition.build = .error problem ↔ definition.problem? = some problem := by
  rw [build, Table.define, problem?]
  cases Table.definitionProblem? definition.name definition.fields with
  | none => simp [Except.map]
  | some first => simp [Except.map]

/-- Each unsound definition gives one problem, the one that its table fails with. -/
theorem forall₂_problems (definitions : List TableDefinition) :
    List.Forall₂ (fun definition problem => definition.build = .error problem)
      (definitions.filter fun definition => ¬ definition.IsSound)
      (definitions.filterMap problem?) := by
  induction definitions with
  | nil => exact .nil
  | cons definition rest ih =>
    cases found : definition.problem? with
    | none =>
      have sound := problem?_eq_none_iff.mp found
      rw [List.filterMap_cons_none found, List.filter_cons_of_neg (by simpa using sound)]
      exact ih
    | some problem =>
      have unsound : ¬ definition.IsSound := by
        rw [← problem?_eq_none_iff, found]
        exact Option.some_ne_none problem
      rw [List.filterMap_cons_some found, List.filter_cons_of_pos (by simpa using unsound)]
      exact .cons (build_eq_error_iff.mpr found) ih

end TableDefinition

/-! ## Problems of the tables as a whole -/

namespace Model

theorem ofTables_eq_error_iff {tables : List Table} {problem : SchemaError} :
    ofTables tables = .error problem ↔ problem? tables = some problem := by
  cases tables with
  | nil => simp [ofTables, problem?]
  | cons target others =>
    cases found : problem? (target :: others) <;> simp [ofTables, found]

theorem problem?_eq_none_iff {tables : List Table} :
    problem? tables = none ↔ tables ≠ [] ∧ (tables.map Table.name).Nodup := by
  rw [problem?]
  split
  · rename_i nothing
    simp [nothing]
  · rename_i something
    rw [Option.map_eq_none_iff, Entries.firstRepeated?_eq_none_iff]
    exact (and_iff_right something).symm

end Model

/-! ## Problems of a file -/

namespace ModelFile

/-- What a check of a file reports. -/
inductive Reports (file : ModelFile) : List SchemaError → Prop where
  | definitions {problems} (unsound : ∃ definition ∈ file.tables, ¬ definition.IsSound)
      (each : List.Forall₂ (fun definition problem => definition.build = .error problem)
        (file.tables.filter fun definition => ¬ definition.IsSound) problems) :
      Reports file problems
  | noTables (empty : file.tables = []) : Reports file [.emptyModel]
  | repeatedTable {before after name}
      (sound : ∀ definition ∈ file.tables, definition.IsSound)
      (names : file.tables.map TableDefinition.name = before ++ name :: after)
      (distinct : before.Nodup) (repeated : name ∈ before) :
      Reports file [.duplicateTable name]
  | nothing (sound : ∀ definition ∈ file.tables, definition.IsSound)
      (nonempty : file.tables ≠ [])
      (distinct : (file.tables.map TableDefinition.name).Nodup) : Reports file []

private theorem names_of_buildTables {file : ModelFile} {tables : List Table}
    (built : file.buildTables = .ok tables) :
    tables.map Table.name = file.tables.map TableDefinition.name := by
  have defined := (forall₂_of_mapM_eq_ok built).imp fun _ _ => TableDefinition.defines_of_build
  exact TableDefinition.names_of_defines defined

theorem buildTables_eq_error_iff {file : ModelFile} {problem : SchemaError} :
    file.buildTables = .error problem ↔
      (file.tables.filterMap TableDefinition.problem?).head? = some problem :=
  mapM_eq_error_iff fun _ _ => TableDefinition.build_eq_error_iff

theorem filterMap_problem?_of_buildTables {file : ModelFile} {tables : List Table}
    (built : file.buildTables = .ok tables) :
    file.tables.filterMap TableDefinition.problem? = [] := by
  have clean := (exists_eq_ok_iff fun _ => buildTables_eq_error_iff).mp ⟨tables, built⟩
  exact List.head?_eq_none_iff.mp clean

theorem problems_of_buildTables {file : ModelFile} {tables : List Table}
    (built : file.buildTables = .ok tables) : file.problems = (Model.problem? tables).toList := by
  simp only [problems, filterMap_problem?_of_buildTables built, built]

theorem problems_of_error {file : ModelFile} {problem : SchemaError}
    (failed : file.buildTables = .error problem) :
    file.problems = file.tables.filterMap TableDefinition.problem? := by
  have first := buildTables_eq_error_iff.mp failed
  unfold problems
  split
  · rename_i clean
    rw [clean] at first
    cases first
  · rfl

/-- Where every definition is sound, only the names of the tables are left to be wrong. -/
theorem reports_of_buildTables {file : ModelFile} {tables : List Table}
    (sound : ∀ definition ∈ file.tables, definition.IsSound)
    (built : file.buildTables = .ok tables) :
    file.Reports (Model.problem? tables).toList := by
  have names := names_of_buildTables built
  cases found : Model.problem? tables with
  | none =>
    obtain ⟨nonempty, distinct⟩ := Model.problem?_eq_none_iff.mp found
    rw [names] at distinct
    refine .nothing sound (fun empty => nonempty ?_) distinct
    rw [empty] at names
    exact List.map_eq_nil_iff.mp names
  | some problem =>
    rw [Model.problem?] at found
    split at found
    · rename_i empty
      cases found
      refine .noTables (List.map_eq_nil_iff.mp (names.symm.trans ?_))
      rw [empty, List.map_nil]
    · obtain ⟨name, repeated, rfl⟩ := Option.map_eq_some_iff.mp found
      rw [names] at repeated
      obtain ⟨before, after, split, distinct, member⟩ :=
        Entries.exists_of_firstRepeated?_eq_some repeated
      exact .repeatedTable sound split distinct member

theorem reports_problems (file : ModelFile) : file.Reports file.problems := by
  cases built : file.buildTables with
  | ok tables =>
    have clean := filterMap_problem?_of_buildTables built
    have sound : ∀ definition ∈ file.tables, definition.IsSound := by
      intro definition member
      exact TableDefinition.problem?_eq_none_iff.mp (List.filterMap_eq_nil_iff.mp clean _ member)
    rw [problems_of_buildTables built]
    exact reports_of_buildTables sound built
  | error problem =>
    have first := List.mem_of_mem_head? (buildTables_eq_error_iff.mp built)
    obtain ⟨definition, member, found⟩ := List.mem_filterMap.mp first
    have unsound : ¬ definition.IsSound := by
      rw [← TableDefinition.problem?_eq_none_iff, found]
      exact Option.some_ne_none problem
    rw [problems_of_error built]
    exact .definitions ⟨definition, member, unsound⟩ (TableDefinition.forall₂_problems file.tables)

private theorem build_of_buildTables {file : ModelFile} {tables : List Table}
    (built : file.buildTables = .ok tables) :
    file.build = (Model.ofTables tables).map (·.withQualify file.options.qualify) := by
  rw [build, built]
  cases accepted : Model.ofTables tables <;> simp [bind, Except.bind, Except.map, accepted]

/-- Whether a table cannot be built or the tables make no model, it is the first problem. -/
theorem build_eq_error_iff {file : ModelFile} {problem : SchemaError} :
    file.build = .error problem ↔ file.problems.head? = some problem := by
  cases built : file.buildTables with
  | error first =>
    -- Building stops at the first table that cannot be built; its problem is the first reported.
    rw [problems_of_error built, buildTables_eq_error_iff.mp built, build, built]
    exact ⟨fun failed => congrArg some (Except.error.inj failed),
      fun same => congrArg Except.error (Option.some.inj same)⟩
  | ok tables =>
    rw [problems_of_buildTables built, Option.head?_toList, build_of_buildTables built,
      ← Model.ofTables_eq_error_iff]
    constructor
    · exact eq_error_of_map_eq_error
    · intro failed
      rw [failed]
      rfl

theorem exists_build_iff {file : ModelFile} :
    (∃ model, file.build = .ok model) ↔ file.problems = [] := by
  rw [exists_eq_ok_iff fun _ => build_eq_error_iff, List.head?_eq_none_iff]

end ModelFile

end UniversalQuery
