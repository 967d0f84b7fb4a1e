import UniversalQuery.Proofs.Outcomes
import UniversalQuery.Proofs.TableColumns

set_option autoImplicit false

/-! Which definitions make a table. The fields are checked in order and each of them for its name,
its type and its column, in this order; the first problem is the only one that is reported. -/

namespace UniversalQuery.Table

variable {name : String} {definition : Entries String}

/-! ## Problems of fields -/

/-- What is wrong with a field where some columns are taken. -/
inductive FieldProblem (table : String) (taken : List String) (field : String × String) :
    SchemaError → Prop where
  | blankName : Text.isBlank field.1 = true → FieldProblem table taken field (.emptyFieldName table)
  | unknownType :
      Text.isBlank field.1 = false → FieldType.ofName? field.2 = none →
      FieldProblem table taken field (.unknownType field.1 field.2)
  | takenColumn :
      Text.isBlank field.1 = false → (FieldType.ofName? field.2).isSome = true →
      snakeKey field.1 ∈ taken → FieldProblem table taken field (.duplicateField (snakeKey field.1))

/-- A field that is not sound has one problem, and the check of its definition ends there. -/
theorem fieldProblem?_cons_eq_some_iff {table : String} {seen : List String}
    {field : String × String} {rest : List (String × String)} {problem : SchemaError} :
    fieldProblem? table seen (field :: rest) = some problem ↔
      FieldProblem table seen field problem ∨
        IsSoundField seen field ∧
          fieldProblem? table (snakeKey field.1 :: seen) rest = some problem := by
  obtain ⟨key, type⟩ := field
  rw [fieldProblem?]
  constructor
  · intro found
    split at found
    · rename_i blank
      cases found
      exact .inl (.blankName blank)
    · rename_i named
      rw [Bool.not_eq_true] at named
      split at found
      · rename_i unknown
        cases found
        exact .inl (.unknownType named (Option.isNone_iff_eq_none.mp unknown))
      · rename_i typed
        rw [Bool.not_eq_true, Option.isNone_eq_false_iff] at typed
        split at found
        · rename_i known
          cases found
          exact .inl (.takenColumn named typed known)
        · rename_i fresh
          exact .inr ⟨⟨named, typed, fresh⟩, found⟩
  · rintro (wrong | ⟨⟨named, typed, fresh⟩, later⟩)
    · cases wrong with
      | blankName blank => exact if_pos blank
      | unknownType named unknown =>
        dsimp only at named unknown ⊢
        simp [named, unknown]
      | takenColumn named typed known =>
        obtain ⟨parsed, catalogued⟩ := Option.isSome_iff_exists.mp typed
        dsimp only at named catalogued known ⊢
        simp [named, catalogued, known]
    · obtain ⟨parsed, catalogued⟩ := Option.isSome_iff_exists.mp typed
      dsimp only at named catalogued fresh later ⊢
      simp [named, catalogued, fresh, later]

/-- The columns of some fields. -/
def columnNames (fields : Entries String) : List String :=
  (Entries.names fields).map snakeKey

theorem columnNames_cons (field : String × String) (rest : Entries String) :
    columnNames (field :: rest) = snakeKey field.1 :: columnNames rest := rfl

theorem FieldProblem.mono {table : String} {taken others : List String} {field : String × String}
    {problem : SchemaError} (subset : taken ⊆ others)
    (wrong : FieldProblem table taken field problem) : FieldProblem table others field problem := by
  cases wrong with
  | blankName blank => exact .blankName blank
  | unknownType named unknown => exact .unknownType named unknown
  | takenColumn named typed known => exact .takenColumn named typed (subset known)

/-- The check of fields ends at the first one with a problem. The columns of the fields before it
are taken, the last of them first. -/
theorem fieldProblem?_eq_some_iff {table : String} {seen : List String} {problem : SchemaError} :
    fieldProblem? table seen definition = some problem ↔
      ∃ before field after, definition = before ++ field :: after ∧
        fieldProblem? table seen before = none ∧
        FieldProblem table ((columnNames before).reverse ++ seen) field problem := by
  induction definition generalizing seen with
  | nil => simp [fieldProblem?]
  | cons first rest ih =>
    rw [fieldProblem?_cons_eq_some_iff, ih]
    constructor
    · rintro (wrong | ⟨sound, before, field, after, rfl, clean, wrong⟩)
      · exact ⟨[], first, rest, rfl, rfl, wrong⟩
      · refine ⟨first :: before, field, after, rfl, ?_, ?_⟩
        · exact fieldProblem?_cons_eq_none_iff.mpr ⟨sound, clean⟩
        · simpa [columnNames_cons] using wrong
    · rintro ⟨before, field, after, split, clean, wrong⟩
      cases before with
      | nil =>
        obtain ⟨rfl, rfl⟩ := List.cons.inj split
        exact .inl wrong
      | cons other before =>
        obtain ⟨rfl, rfl⟩ := List.cons.inj split
        obtain ⟨sound, clean⟩ := fieldProblem?_cons_eq_none_iff.mp clean
        refine .inr ⟨sound, before, field, after, rfl, clean, ?_⟩
        simpa [columnNames_cons] using wrong

/-! ## Problems of definitions -/

/-- The first problem of a definition for a table of a name. -/
inductive FirstProblem (name : String) (definition : Entries String) : SchemaError → Prop where
  | blankName : Text.isBlank name = true → FirstProblem name definition .emptyTableName
  | noFields :
      Text.isBlank name = false → definition = [] →
      FirstProblem name definition (.missingDefinition name)
  | field {before after : Entries String} {field : String × String} {problem : SchemaError} :
      Text.isBlank name = false → definition = before ++ field :: after →
      (∀ other ∈ before,
        Text.isBlank other.1 = false ∧ (FieldType.ofName? other.2).isSome = true) →
      (columnNames before).Nodup → FieldProblem name (columnNames before) field problem →
      FirstProblem name definition problem

theorem isSoundField_nil_iff {field : String × String} :
    IsSoundField [] field ↔
      Text.isBlank field.1 = false ∧ (FieldType.ofName? field.2).isSome = true :=
  ⟨fun sound => ⟨sound.named, sound.typed⟩, fun sound => ⟨sound.1, sound.2, List.not_mem_nil⟩⟩

theorem definitionProblem?_eq_some_iff {problem : SchemaError} :
    definitionProblem? name definition = some problem ↔ FirstProblem name definition problem := by
  rw [definitionProblem?]
  constructor
  · intro found
    split at found
    · rename_i blank
      cases found
      exact .blankName blank
    · rename_i named
      rw [Bool.not_eq_true] at named
      split at found
      · rename_i nothing
        cases found
        exact .noFields named nothing
      · obtain ⟨before, field, after, split, clean, wrong⟩ := fieldProblem?_eq_some_iff.mp found
        obtain ⟨sound, distinct⟩ := fieldProblem?_eq_none_iff.mp clean
        refine .field named split ?_ distinct (wrong.mono ?_)
        · exact fun other member => isSoundField_nil_iff.mp (sound other member)
        · simp
  · intro first
    cases first with
    | blankName blank => exact if_pos blank
    | noFields named nothing => simp [named, nothing]
    | field named split sound distinct wrong =>
      have fields : definition ≠ [] := by simp [split]
      rw [named, if_neg Bool.false_ne_true, if_neg fields]
      refine fieldProblem?_eq_some_iff.mpr ⟨_, _, _, split, ?_, wrong.mono ?_⟩
      · refine fieldProblem?_eq_none_iff.mpr ⟨fun other member => ?_, distinct⟩
        exact isSoundField_nil_iff.mpr (sound other member)
      · simp

theorem define_eq_error_iff {problem : SchemaError} :
    define name definition = .error problem ↔
      definitionProblem? name definition = some problem := by
  rw [define]
  cases definitionProblem? name definition with
  | none => simp
  | some first => simp

theorem isSome_ofName?_iff {type : String} :
    (FieldType.ofName? type).isSome = true ↔ ∃ known : FieldType, known.name = type := by
  rw [Option.isSome_iff_exists]
  exact exists_congr fun _ => FieldType.ofName?_eq_some_iff

theorem isSoundDefinition_iff :
    IsSoundDefinition name definition ↔
      Text.isBlank name = false ∧ definition ≠ [] ∧
        (∀ field ∈ definition,
          Text.isBlank field.1 = false ∧ ∃ type : FieldType, type.name = field.2) ∧
        (columnNames definition).Nodup := by
  have each : (∀ field ∈ definition, IsSoundField [] field) ↔ ∀ field ∈ definition,
      Text.isBlank field.1 = false ∧ ∃ type : FieldType, type.name = field.2 := by
    refine forall₂_congr fun field _ => ?_
    rw [isSoundField_nil_iff, isSome_ofName?_iff]
  rw [← each]
  constructor
  · rintro ⟨named, nonempty, fields, distinct⟩
    exact ⟨named, nonempty, fields, distinct⟩
  · rintro ⟨named, nonempty, fields, distinct⟩
    exact ⟨named, nonempty, fields, distinct⟩

/-- A definition makes a table exactly if its name and its fields have names, there are fields, all
types are catalogued and no two fields give one column. The columns are then the fields in snake
case with their types, all of them and in order. Otherwise the first problem is reported, and it is
the only one. -/
theorem define_accepts_iff (name : String) (definition : Entries String) :
    ((∃ table, define name definition = .ok table) ↔
      Text.isBlank name = false ∧ definition ≠ [] ∧
        (∀ field ∈ definition,
          Text.isBlank field.1 = false ∧ ∃ type : FieldType, type.name = field.2) ∧
        (columnNames definition).Nodup) ∧
    (∀ table, define name definition = .ok table →
      table.name = name ∧ table.primaryKey = defaultPrimaryKey ∧
        List.Forall₂ (fun field column => column.1 = snakeKey field.1 ∧ column.2.name = field.2)
          definition table.fields) ∧
    (∀ problem, define name definition = .error problem ↔
      definitionProblem? name definition = some problem) ∧
    ∀ problem, define name definition = .error problem ↔
      FirstProblem name definition problem := by
  refine ⟨?_, ?_, fun problem => define_eq_error_iff, fun problem => ?_⟩
  · rw [exists_eq_ok_iff fun _ => define_eq_error_iff, definitionProblem?_eq_none_iff,
      isSoundDefinition_iff]
  · intro table accepted
    obtain ⟨each, -⟩ := forall₂_of_define accepted
    have columns := each.imp fun field column paired =>
      And.intro paired.name (FieldType.ofName?_eq_some_iff.mp paired.type)
    rw [define] at accepted
    split at accepted
    · cases accepted
    · cases accepted
      exact ⟨rfl, rfl, columns⟩
  · rw [define_eq_error_iff, definitionProblem?_eq_some_iff]

/-- Fields that change in snake case and one that does not. -/
def staff : Entries String :=
  [("lastName", "string"), ("Job", "json"), ("_age", "integer")]

/-- A field with an unknown type and a column that is taken, before fields with other problems. -/
def spoiledStaff : Entries String :=
  [("lastName", "string"), ("last_name", "int"), ("LastName", "text"), (" ", "text")]

theorem define_accepts_iff_staff :
    (∃ table, define "people" staff = .ok table) ∧
    define "people" staff = .ok ⟨"people", "id",
      [("last_name", .string), ("job", .json), ("_age", .integer)]⟩ ∧
    List.Forall₂ (fun field column => column.1 = snakeKey field.1 ∧ column.2.name = field.2)
      staff [("last_name", FieldType.string), ("job", .json), ("_age", .integer)] ∧
    define "people" spoiledStaff = .error (.unknownType "last_name" "int") ∧
    FirstProblem "people" spoiledStaff (.unknownType "last_name" "int") := by
  obtain ⟨sound, columns, -, -⟩ := define_accepts_iff "people" staff
  obtain ⟨-, -, -, first⟩ := define_accepts_iff "people" spoiledStaff
  have accepted : define "people" staff = .ok ⟨"people", "id",
      [("last_name", .string), ("job", .json), ("_age", .integer)]⟩ := by decide +kernel
  have refused : define "people" spoiledStaff = .error (.unknownType "last_name" "int") := by
    decide +kernel
  obtain ⟨-, -, each⟩ := columns _ accepted
  have fields : ∀ field ∈ staff,
      Text.isBlank field.1 = false ∧ (FieldType.ofName? field.2).isSome = true := by decide +kernel
  refine ⟨sound.mpr ⟨by decide, by decide, ?_, by decide +kernel⟩, accepted, each, refused,
    (first _).mp refused⟩
  exact fun field member => (fields field member).imp_right isSome_ofName?_iff.mp

end UniversalQuery.Table
