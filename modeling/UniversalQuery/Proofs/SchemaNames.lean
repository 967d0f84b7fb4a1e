import UniversalQuery.Schema.Model

set_option autoImplicit false

/-! The names that a schema gives to statements. They are those of the tables of its model. -/

namespace UniversalQuery

namespace Schema

variable (schema : Schema)

/-- The columns that a reference may name. -/
def HasColumn (name : String) : Prop :=
  (schema.fieldType? name).isSome = true ∨ name = schema.primaryKey

def HasWritable (name : String) : Prop :=
  (schema.writableType? name).isSome = true

def HasTable (name : String) : Prop :=
  name = schema.table ∨ ∃ field, schema.owner? field = some name

/-- No name that a statement can hold has the character in it. -/
structure Avoids (c : Char) : Prop where
  table : ∀ {name}, schema.HasTable name → c ∉ name.toList
  column : ∀ {name}, schema.HasColumn name → c ∉ name.toList
  writable : ∀ {name}, schema.HasWritable name → c ∉ name.toList

/-- Names that cannot be taken for something else in a predicate. -/
structure PlainNames : Prop where
  blank : schema.Avoids ' '
  quote : schema.Avoids '\''
  opening : schema.Avoids '('
  closing : schema.Avoids ')'

end Schema

def Table.names (table : Table) : List String :=
  table.name :: table.primaryKey :: Entries.names table.fields

theorem Table.mem_names_of_fieldType? {table : Table} {name : String}
    (typed : (table.fieldType? name).isSome = true) : name ∈ table.names := by
  have column : name ∈ Entries.names table.fields :=
    (Entries.has_eq_true_iff table.fields name).mp typed
  exact List.mem_cons_of_mem _ (List.mem_cons_of_mem _ column)

namespace Model

variable {model : Model}

def names (model : Model) : List String :=
  model.tables.flatMap Table.names

theorem mem_names {table : Table} {name : String} (member : table ∈ model.tables)
    (named : name ∈ table.names) : name ∈ model.names :=
  List.mem_flatMap.mpr ⟨table, member, named⟩

private theorem mem_names_of_hasTable {name : String} (known : model.schema.HasTable name) :
    name ∈ model.names := by
  rcases known with rfl | ⟨field, owner⟩
  · exact mem_names List.mem_cons_self List.mem_cons_self
  · obtain ⟨table, found, rfl⟩ := Option.map_eq_some_iff.mp owner
    exact mem_names (List.mem_of_find?_eq_some found) List.mem_cons_self

private theorem mem_names_of_hasColumn {name : String} (known : model.schema.HasColumn name) :
    name ∈ model.names := by
  rcases known with typed | rfl
  · obtain ⟨type, found⟩ := Option.isSome_iff_exists.mp typed
    obtain ⟨table, owner, declared⟩ := Option.bind_eq_some_iff.mp found
    have column : (table.fieldType? name).isSome = true := by rw [declared]; rfl
    exact mem_names (List.mem_of_find?_eq_some owner) (Table.mem_names_of_fieldType? column)
  · exact mem_names List.mem_cons_self (List.mem_cons_of_mem _ List.mem_cons_self)

private theorem mem_names_of_hasWritable {name : String} (known : model.schema.HasWritable name) :
    name ∈ model.names :=
  mem_names List.mem_cons_self (Table.mem_names_of_fieldType? known)

theorem schema_avoids {c : Char} (avoids : ∀ name ∈ model.names, c ∉ name.toList) :
    model.schema.Avoids c where
  table known := avoids _ (mem_names_of_hasTable known)
  column known := avoids _ (mem_names_of_hasColumn known)
  writable known := avoids _ (mem_names_of_hasWritable known)

theorem schema_plainNames
    (plain : ∀ name ∈ model.names, ' ' ∉ name.toList ∧ '\'' ∉ name.toList ∧
      '(' ∉ name.toList ∧ ')' ∉ name.toList) : model.schema.PlainNames where
  blank := schema_avoids fun name member => (plain name member).1
  quote := schema_avoids fun name member => (plain name member).2.1
  opening := schema_avoids fun name member => (plain name member).2.2.1
  closing := schema_avoids fun name member => (plain name member).2.2.2

end Model

/-- A model with one table, to state cases with. -/
def people : Model :=
  .single ⟨"people", "id", [("name", .string), ("age", .integer), ("job", .json)]⟩

end UniversalQuery
