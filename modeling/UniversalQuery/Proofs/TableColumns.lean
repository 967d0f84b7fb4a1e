import Mathlib.Data.List.Forall2
import UniversalQuery.Schema.Table

set_option autoImplicit false

/-! The columns of a defined table. They are the fields of its definition in snake case, one for each
and in order, since a definition with a repeated column is refused. -/

namespace UniversalQuery.Table

/-- A field that a definition may have after the fields of some columns. -/
structure IsSoundField (seen : List String) (field : String × String) : Prop where
  named : Text.isBlank field.1 = false
  typed : (FieldType.ofName? field.2).isSome = true
  fresh : snakeKey field.1 ∉ seen

theorem IsSoundField.cons_iff {column : String} {seen : List String} {field : String × String} :
    IsSoundField (column :: seen) field ↔
      IsSoundField seen field ∧ snakeKey field.1 ≠ column := by
  constructor
  · rintro ⟨named, typed, fresh⟩
    rw [List.mem_cons, not_or] at fresh
    exact ⟨⟨named, typed, fresh.2⟩, fresh.1⟩
  · rintro ⟨⟨named, typed, fresh⟩, other⟩
    refine ⟨named, typed, ?_⟩
    rw [List.mem_cons, not_or]
    exact ⟨other, fresh⟩

theorem fieldProblem?_cons_eq_none_iff {table : String} {seen : List String}
    {field : String × String} {rest : List (String × String)} :
    fieldProblem? table seen (field :: rest) = none ↔
      IsSoundField seen field ∧ fieldProblem? table (snakeKey field.1 :: seen) rest = none := by
  obtain ⟨name, type⟩ := field
  rw [fieldProblem?]
  constructor
  · intro sound
    split at sound
    · cases sound
    · rename_i named
      split at sound
      · cases sound
      · rename_i typed
        split at sound
        · cases sound
        · rename_i fresh
          refine ⟨⟨by simpa using named, ?_, fresh⟩, sound⟩
          rwa [Bool.not_eq_true, Option.isNone_eq_false_iff] at typed
  · rintro ⟨⟨named, typed, fresh⟩, sound⟩
    obtain ⟨parsed, known⟩ := Option.isSome_iff_exists.mp typed
    dsimp only at named known fresh sound
    simp [named, known, fresh, sound]

/-- Nothing is wrong with fields if each is sound by itself and no two give one column. -/
theorem fieldProblem?_eq_none_iff {table : String} {seen : List String}
    {definition : Entries String} :
    fieldProblem? table seen definition = none ↔
      (∀ field ∈ definition, IsSoundField seen field) ∧
      ((Entries.names definition).map snakeKey).Nodup := by
  induction definition generalizing seen with
  | nil => simp [fieldProblem?, Entries.names]
  | cons field rest ih =>
    rw [fieldProblem?_cons_eq_none_iff, ih, Entries.names_cons, List.map_cons, List.nodup_cons,
      List.forall_mem_cons]
    constructor
    · rintro ⟨first, others, distinct⟩
      refine ⟨⟨first, fun other member => (IsSoundField.cons_iff.mp (others other member)).1⟩,
        ?_, distinct⟩
      rw [Entries.names, List.map_map]
      intro repeated
      obtain ⟨other, member, same⟩ := List.mem_map.mp repeated
      exact (IsSoundField.cons_iff.mp (others other member)).2 same
    · rintro ⟨⟨first, others⟩, fresh, distinct⟩
      refine ⟨first, fun other member => IsSoundField.cons_iff.mpr ⟨others other member, ?_⟩,
        distinct⟩
      intro same
      apply fresh
      rw [← same]
      exact List.mem_map_of_mem (List.mem_map_of_mem member)

/-- A definition that a table of a name may have: it has fields, each sound by itself, and no two of
them give one column. -/
structure IsSoundDefinition (name : String) (definition : Entries String) : Prop where
  named : Text.isBlank name = false
  nonempty : definition ≠ []
  fields : ∀ field ∈ definition, IsSoundField [] field
  distinct : ((Entries.names definition).map snakeKey).Nodup

theorem definitionProblem?_eq_none_iff {name : String} {definition : Entries String} :
    definitionProblem? name definition = none ↔ IsSoundDefinition name definition := by
  unfold definitionProblem?
  constructor
  · intro sound
    split at sound
    · cases sound
    · rename_i named
      split at sound
      · cases sound
      · rename_i nonempty
        obtain ⟨fields, distinct⟩ := fieldProblem?_eq_none_iff.mp sound
        exact ⟨by simpa using named, nonempty, fields, distinct⟩
  · rintro ⟨named, nonempty, fields, distinct⟩
    rw [named, if_neg Bool.false_ne_true, if_neg nonempty]
    exact fieldProblem?_eq_none_iff.mpr ⟨fields, distinct⟩

/-- A column is its field in snake case, with the type that the definition names. -/
structure IsColumnOf (field : String × String) (column : String × FieldType) : Prop where
  name : column.1 = snakeKey field.1
  type : FieldType.ofName? field.2 = some column.2

private theorem forall₂_typedColumns {definition : Entries String}
    (typed : ∀ field ∈ definition, (FieldType.ofName? field.2).isSome = true) :
    List.Forall₂ IsColumnOf definition (definition.filterMap fun field =>
      (FieldType.ofName? field.2).map fun type => (snakeKey field.1, type)) := by
  induction definition with
  | nil => exact .nil
  | cons field rest ih =>
    obtain ⟨first, others⟩ := List.forall_mem_cons.mp typed
    obtain ⟨type, parsed⟩ := Option.isSome_iff_exists.mp first
    rw [List.filterMap_cons, parsed]
    exact .cons ⟨rfl, parsed⟩ (ih others)

theorem names_of_forall₂ {definition : Entries String} {columns : Entries FieldType}
    (each : List.Forall₂ IsColumnOf definition columns) :
    Entries.names columns = (Entries.names definition).map snakeKey := by
  induction each with
  | nil => rfl
  | @cons field column _ _ head _ ih =>
    rw [Entries.names_cons, Entries.names_cons, List.map_cons, ← head.name, ih]

/-- The columns of a table are the fields of its definition, all of them and in order. -/
theorem forall₂_of_define {name : String} {definition : Entries String} {table : Table}
    (accepted : define name definition = .ok table) :
    List.Forall₂ IsColumnOf definition table.fields ∧ (Entries.names table.fields).Nodup := by
  unfold define at accepted
  split at accepted
  · cases accepted
  · rename_i sound
    cases accepted
    obtain ⟨-, -, fields, distinct⟩ := definitionProblem?_eq_none_iff.mp sound
    have each := forall₂_typedColumns fun field member => (fields field member).typed
    rw [← names_of_forall₂ each] at distinct
    rw [columns, Entries.ofPairs_of_nodup distinct]
    exact ⟨each, distinct⟩

end UniversalQuery.Table
