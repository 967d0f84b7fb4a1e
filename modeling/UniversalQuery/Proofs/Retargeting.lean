import Mathlib.Data.List.Dedup
import Mathlib.Data.List.Nodup
import UniversalQuery.Proofs.BuiltModel

set_option autoImplicit false

/-! Models whose target changes again and again. The tables stay what they are; they stand in the
order in which they were last targeted, and fields are looked up in that order. -/

namespace UniversalQuery.Model

/-! ## Changes -/

/-- A change of a model: another target, or another rule for column references. -/
inductive Change where
  | target (name : String)
  | qualify (rule : Qualify)
deriving DecidableEq, Repr

/-- Changes a model. A target that is none of its tables leaves it as it was. -/
def change (model : Model) : Change → Model
  | .target name => (model.targeting? name).getD model
  | .qualify rule => model.withQualify rule

def changeAll (model : Model) (changes : List Change) : Model :=
  changes.foldl change model

def Change.targetName? : Change → Option String
  | .target name => some name
  | .qualify _ => none

/-- Everything that a change can do to the tables of a model. -/
inductive Moves (tables : List Table) : Change → List Table → Prop where
  | toFront {before table after} (place : tables = before ++ table :: after)
      (first : ∀ other ∈ before, other.name ≠ table.name) :
      Moves tables (.target table.name) (table :: (before ++ after))
  | missing {name} (unknown : ∀ table ∈ tables, table.name ≠ name) :
      Moves tables (.target name) tables
  | qualify {rule} : Moves tables (.qualify rule) tables

theorem moves_change (model : Model) (step : Change) :
    Moves model.tables step (model.change step).tables := by
  cases step with
  | qualify rule => exact .qualify
  | target name =>
    cases found : model.table? name with
    | none =>
      have unmoved : (model.change (.target name)).tables = model.tables := by
        simp [change, targeting?, found]
      rw [unmoved]
      refine .missing fun table member => ?_
      simpa using List.find?_eq_none.mp found table member
    | some table =>
      obtain ⟨named, before, after, place, first⟩ := List.find?_eq_some_iff_append.mp found
      have same : table.name = name := by simpa using named
      subst same
      have moved : (model.change (.target table.name)).tables = table :: (before ++ after) := by
        have rest : model.tables.eraseP (fun other => other.name == table.name) =
            before ++ after := by
          rw [place, List.eraseP_append_right _ (by simpa using first), List.eraseP_cons]
          simp
        simp only [change, targeting?, found, Option.map_some, Option.getD_some, rest]
        rfl
      rw [moved]
      exact .toFront place (by simpa using first)

theorem Moves.perm {tables moved : List Table} {step : Change} (moves : Moves tables step moved) :
    moved.Perm tables := by
  cases moves with
  | toFront place _ =>
    rw [place]
    exact List.perm_middle.symm
  | missing => exact .refl tables
  | qualify => exact .refl tables

theorem perm_changeAll (model : Model) (changes : List Change) :
    (model.changeAll changes).tables.Perm model.tables := by
  induction changes generalizing model with
  | nil => exact .refl _
  | cons step rest ih => exact (ih (model.change step)).trans (moves_change model step).perm

/-! ## The order of the tables -/

/-- The tables of a list after some names were targeted: those of the names, the last name first,
and the others as they were. -/
def retargeted (tables : List Table) (names : List String) : List Table :=
  names.dedup.reverse.filterMap (fun name => tables.find? (·.name == name)) ++
    tables.filter fun table => table.name ∉ names

theorem find?_name_eq_some_iff {tables : List Table} {name : String} {table : Table}
    (distinct : (tables.map Table.name).Nodup) :
    tables.find? (·.name == name) = some table ↔ table ∈ tables ∧ table.name = name := by
  constructor
  · intro found
    exact ⟨List.mem_of_find?_eq_some found, by simpa using List.find?_some found⟩
  · rintro ⟨member, rfl⟩
    cases found : tables.find? (·.name == table.name) with
    | none => simpa using List.find?_eq_none.mp found table member
    | some other =>
      have same : other.name = table.name := by simpa using List.find?_some found
      rw [List.inj_on_of_nodup_map distinct (List.mem_of_find?_eq_some found) member same]

private theorem find?_name_perm {tables others : List Table} (same : others.Perm tables)
    (distinct : (tables.map Table.name).Nodup) (name : String) :
    others.find? (·.name == name) = tables.find? (·.name == name) := by
  have distinctOthers : (others.map Table.name).Nodup :=
    (same.map Table.name).nodup_iff.mpr distinct
  ext table
  rw [find?_name_eq_some_iff distinctOthers, find?_name_eq_some_iff distinct, same.mem_iff]

private theorem retargeted_nil (tables : List Table) : retargeted tables [] = tables := by
  simp [retargeted]

private theorem filterMap_reverse_dedup_cons (find : String → Option Table) (name : String)
    (names : List String) :
    (name :: names).dedup.reverse.filterMap find =
      names.dedup.reverse.filterMap find ++ if name ∈ names then [] else (find name).toList := by
  split
  · rename_i again
    rw [List.dedup_cons_of_mem again, List.append_nil]
  · rename_i last
    rw [List.dedup_cons_of_notMem last, List.reverse_cons, List.filterMap_append]
    cases found : find name <;> simp [found]

private theorem filter_notMem_cons {tables : List Table} {name : String} (names : List String)
    (apart : ∀ table ∈ tables, table.name ≠ name) :
    (tables.filter fun table => table.name ∉ name :: names) =
      tables.filter fun table => table.name ∉ names := by
  refine List.filter_congr fun table member => ?_
  simp [apart table member]

/-- A name that is given before others leaves its table behind theirs, unless it comes again. -/
theorem retargeted_moves {tables moved : List Table} {step : Change} (names : List String)
    (moves : Moves tables step moved) (distinct : (tables.map Table.name).Nodup) :
    retargeted moved names = retargeted tables (step.targetName?.toList ++ names) := by
  have found := find?_name_perm moves.perm distinct
  have distinctThen := (moves.perm.map Table.name).nodup_iff.mpr distinct
  unfold retargeted
  -- Names are looked up alike before and after the step, so only the last place differs.
  simp only [found]
  cases moves with
  | qualify => rfl
  | @missing name unknown =>
    have nowhere : tables.find? (fun table => table.name == name) = none := by
      simpa using unknown
    change _ = ((name :: names).dedup.reverse.filterMap _ ++
      tables.filter fun table => table.name ∉ name :: names)
    rw [filterMap_reverse_dedup_cons, filter_notMem_cons names unknown, nowhere]
    simp
  | @toFront before table after place first =>
    have here : tables.find? (fun other => other.name == table.name) = some table :=
      (find?_name_eq_some_iff distinct).mpr ⟨by simp [place], rfl⟩
    have apart : ∀ other ∈ before ++ after, other.name ≠ table.name := by
      intro other member same
      exact (List.nodup_cons.mp distinctThen).1 (same ▸ List.mem_map_of_mem member)
    have rest : (tables.filter fun other => other.name ∉ table.name :: names) =
        (before ++ after).filter fun other => other.name ∉ names := by
      rw [← filter_notMem_cons names apart, place]
      simp
    change _ = ((table.name :: names).dedup.reverse.filterMap _ ++
      tables.filter fun other => other.name ∉ table.name :: names)
    rw [filterMap_reverse_dedup_cons, rest, here]
    by_cases again : table.name ∈ names <;> simp [again]

/-- The tables after a run of changes. -/
theorem tables_changeAll {model : Model} (distinct : (model.tables.map Table.name).Nodup)
    (changes : List Change) :
    (model.changeAll changes).tables =
      retargeted model.tables (changes.filterMap Change.targetName?) := by
  induction changes generalizing model with
  | nil => exact (retargeted_nil model.tables).symm
  | cons step rest ih =>
    have moves := moves_change model step
    have distinctThen : ((model.change step).tables.map Table.name).Nodup :=
      (moves.perm.map Table.name).nodup_iff.mpr distinct
    have split : (step :: rest).filterMap Change.targetName? =
        step.targetName?.toList ++ rest.filterMap Change.targetName? := by
      cases step <;> rfl
    rw [split, ← retargeted_moves _ moves distinct]
    exact ih distinctThen

/-! ## Fields -/

/-- What a model says of a field: type and table of the first table that declares it. -/
inductive Resolves (model : Model) (field : String) : Option FieldType → Option String → Prop where
  | nowhere (undeclared : ∀ table ∈ model.tables, table.declares field = false) :
      Resolves model field none none
  | first {before table after type} (place : model.tables = before ++ table :: after)
      (earlier : ∀ other ∈ before, other.declares field = false)
      (declared : table.fieldType? field = some type) :
      Resolves model field (some type) (some table.name)

theorem resolves_schema (model : Model) (field : String) :
    model.Resolves field (model.schema.fieldType? field) (model.schema.owner? field) := by
  cases found : model.owner? field with
  | none =>
    have type : model.schema.fieldType? field = none := by
      simp [schema, fieldType?, found]
    have owner : model.schema.owner? field = none := by
      simp [schema, found]
    rw [type, owner]
    refine .nowhere fun table member => ?_
    simpa using List.find?_eq_none.mp found table member
  | some table =>
    obtain ⟨declares, before, after, place, earlier⟩ := List.find?_eq_some_iff_append.mp found
    obtain ⟨type, declared⟩ := Option.isSome_iff_exists.mp declares
    have typed : model.schema.fieldType? field = some type := by
      change (model.owner? field).bind _ = _
      rw [found]
      exact declared
    have owner : model.schema.owner? field = some table.name := by
      simp [schema, found]
    rw [typed, owner]
    exact .first place (by simpa using earlier) declared

theorem isSome_fieldType?_iff {model : Model} {field : String} :
    (model.schema.fieldType? field).isSome = true ↔
      ∃ table ∈ model.tables, table.declares field = true := by
  have resolves := model.resolves_schema field
  revert resolves
  generalize model.schema.fieldType? field = type, model.schema.owner? field = owner
  intro resolves
  cases resolves with
  | nowhere undeclared => simpa using undeclared
  | @first before table after type place earlier declared =>
    refine iff_of_true rfl ⟨table, by simp [place], ?_⟩
    exact Option.isSome_iff_exists.mpr ⟨type, declared⟩

/-! ## Runs -/

/-- What holds of a model of some tables after some of them were targeted, the last name last. -/
structure Retargeted (tables : List Table) (names : List String) (model : Model) : Prop where
  nonempty : model.tables ≠ []
  distinct : (model.tables.map Table.name).Nodup
  order : model.tables = retargeted tables names
  known : ∀ field, (model.schema.fieldType? field).isSome = true ↔
    ∃ table ∈ tables, table.declares field = true
  resolves : ∀ field, model.Resolves field (model.schema.fieldType? field)
    (model.schema.owner? field)
  writable : ∀ field type, model.schema.writableType? field = some type →
    model.schema.fieldType? field = some type ∧
      model.schema.owner? field = some model.schema.table

theorem owner?_of_writableType? {model : Model} {field : String} {type : FieldType}
    (writable : model.schema.writableType? field = some type) :
    model.schema.owner? field = some model.schema.table := by
  have declared : model.target.declares field = true :=
    Option.isSome_iff_exists.mpr ⟨type, writable⟩
  have owner : model.owner? field = some model.target := List.find?_cons_of_pos declared
  change (model.owner? field).map Table.name = _
  rw [owner]
  rfl

/-- Whatever changes a model goes through, its tables are those it was built of, in the order in
which they were last targeted, and what it says of fields agrees with that order. -/
theorem retargeted_changeAll {tables : List Table} {model : Model}
    (built : ofTables tables = .ok model) (changes : List Change) :
    Retargeted tables (changes.filterMap Change.targetName?) (model.changeAll changes) := by
  have same := tables_of_ofTables built
  have distinct : (model.tables.map Table.name).Nodup := by
    have sound := (exists_eq_ok_iff fun _ => ofTables_eq_error_iff).mp ⟨model, built⟩
    rw [same]
    exact (problem?_eq_none_iff.mp sound).2
  have perm := perm_changeAll model changes
  refine ⟨List.cons_ne_nil _ _, ?_, ?_, ?_, resolves_schema _, ?_⟩
  · exact (perm.map Table.name).nodup_iff.mpr distinct
  · rw [tables_changeAll distinct, same]
  · intro field
    rw [isSome_fieldType?_iff, ← same]
    simp only [perm.mem_iff]
  · intro field type writable
    exact ⟨fieldType?_of_writableType? writable, owner?_of_writableType? writable⟩

/-- Three tables, two of which declare a field `name`. -/
def officeTables : List Table :=
  [⟨"people", "id", [("name", .string), ("job", .json)]⟩,
   ⟨"jobs", "id", [("title", .string), ("name", .text)]⟩,
   ⟨"companies", "company_id", [("size", .integer)]⟩]

def officeModel : Model :=
  ⟨⟨"people", "id", [("name", .string), ("job", .json)]⟩,
   [⟨"jobs", "id", [("title", .string), ("name", .text)]⟩,
    ⟨"companies", "company_id", [("size", .integer)]⟩],
   .auto⟩

def officeChanges : List Change :=
  [.target "jobs", .qualify .always, .target "offices", .target "companies", .target "jobs"]

theorem retargeted_changeAll_office :
    ofTables officeTables = .ok officeModel ∧
    Retargeted officeTables ["jobs", "offices", "companies", "jobs"]
      (officeModel.changeAll officeChanges) := by
  have built : ofTables officeTables = .ok officeModel := by decide
  exact ⟨built, retargeted_changeAll built officeChanges⟩

example : ((officeModel.changeAll officeChanges).tables.map Table.name,
    (officeModel.changeAll officeChanges).schema.owner? "name") =
      (["jobs", "companies", "people"], some "jobs") := by
  decide

end UniversalQuery.Model
