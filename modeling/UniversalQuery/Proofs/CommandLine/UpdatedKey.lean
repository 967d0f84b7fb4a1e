import UniversalQuery.CommandLine.Run
import UniversalQuery.Proofs.BuiltModel

set_option autoImplicit false

/-! The key that an update of a document store leaves out. It is the primary key of the target table
in snake case, whatever its spelling in the model file, while the keys of a record stay as they are.
So a primary key that snake case changes is set like any other key. -/

namespace UniversalQuery

/-! ## The target table -/

/-- The definition of the table that a request is about: the one of a name, or the first. -/
def ModelFile.definition? (file : ModelFile) : Option String → Option TableDefinition
  | none => file.tables.head?
  | some name => file.tables.find? (·.name == name)

theorem TableDefinition.defines_of_find? {name : String} {definitions : List TableDefinition}
    {tables : List Table} {table : Table} (defined : List.Forall₂ Defines definitions tables)
    (found : tables.find? (·.name == name) = some table) :
    ∃ definition, definitions.find? (·.name == name) = some definition ∧
      definition.Defines table := by
  induction defined with
  | nil => cases found
  | @cons definition first _ _ head _ ih =>
    by_cases named : first.name = name
    · have same : table = first := by simpa [named] using found.symm
      exact ⟨definition, by simp [← head.name, named], same ▸ head⟩
    · have other : ¬ definition.name = name := head.name ▸ named
      rw [List.find?_cons_of_neg (by simpa using named)] at found
      obtain ⟨next, later, defines⟩ := ih found
      exact ⟨next, by rwa [List.find?_cons_of_neg (by simpa using other)], defines⟩

namespace CommandLine

open DocumentStore

/-- Whatever table a request names, the target of its model has a definition in the file. -/
theorem defines_of_targetModel {file : ModelFile} {request : Request} {model : Model}
    (targeted : targetModel file request = .ok model) :
    ∃ definition, file.definition? request.table = some definition ∧
      definition.Defines model.target := by
  obtain ⟨whole, loaded, tail⟩ := exists_of_bind_eq_ok targeted
  have defined := ModelFile.defines_of_build
    (exists_of_mapError_eq_ok (exists_of_mapError_eq_ok loaded))
  cases named : request.table with
  | none =>
    simp only [named] at tail
    cases tail
    unfold Model.tables at defined
    cases tables : file.tables with
    | nil =>
      rw [tables] at defined
      cases defined
    | cons definition rest =>
      rw [tables] at defined
      cases defined with
      | cons head _ => exact ⟨definition, by simp [ModelFile.definition?, tables], head⟩
  | some name =>
    simp only [named] at tail
    split at tail
    · rename_i moved retargeted
      cases tail
      obtain ⟨table, found, rfl⟩ := Option.map_eq_some_iff.mp retargeted
      exact TableDefinition.defines_of_find? defined found
    · cases tail

/-! ## Updates -/

/-- The document that an update sets, if it is one. -/
def setValues? : Json → Option (Entries Json)
  | .object members =>
    match Entries.get? members "update" with
    | some (.object changes) =>
      match Entries.get? changes "$set" with
      | some (.object values) => some values
      | _ => none
    | _ => none
  | _ => none

theorem setValues?_toJson (update : Update) : setValues? update.toJson = some update.values := by
  have outside : ¬ "query" = "update" := by decide
  simp [setValues?, Update.toJson, Entries.get?, outside]

private theorem names_updatedValues (primaryKey : String) (record : Document) :
    Entries.names (updatedValues primaryKey record) =
      (Entries.names record).filter (· != primaryKey) := by
  simp [updatedValues, Value.toJsonFields_eq_map, Entries.names, List.filter_map,
    Function.comp_def]

/-- What an update says: null if only the primary key is there to be set. -/
structure SetsAllBut (primaryKey : String) (record : Document) (json : Json) : Prop where
  mem_iff : ∀ key, (∃ values, setValues? json = some values ∧ key ∈ Entries.names values) ↔
    key ∈ Entries.names record ∧ key ≠ primaryKey
  eq_null_iff : json = .null ↔ ∀ key ∈ Entries.names record, key = primaryKey

theorem setsAllBut_of_storeRequest {model : Model} {query : Query} {record : Document} {json : Json}
    (requested : storeRequest model .update query record = .ok json) :
    SetsAllBut model.target.primaryKey record json := by
  have names := names_updatedValues model.target.primaryKey record
  obtain ⟨changed, updated, rfl⟩ := exists_of_map_eq_ok requested
  have key : model.schema.primaryKey = model.target.primaryKey := rfl
  rw [DocumentStore.update, key] at updated
  split at updated
  · rename_i nothing
    cases updated
    have only : ∀ key ∈ Entries.names record, key = model.target.primaryKey := by
      rw [nothing] at names
      simpa [Entries.names] using names
    constructor
    · intro key
      simp only [setValues?, reduceCtorEq, false_and, exists_false, false_iff, not_and, not_not]
      exact only key
    · simpa using only
  · rename_i something
    obtain ⟨filter, -, rfl⟩ := exists_of_map_eq_ok updated
    constructor
    · intro key
      simp [setValues?_toJson, names]
    · simp only [Update.toJson, reduceCtorEq, false_iff]
      intro only
      refine something (List.map_eq_nil_iff.mp (names.trans ?_))
      simpa using only

/-- An update sets all keys of the record but the primary key of the target table in snake case. So
the declared primary key is left out, and alone leaves nothing to set, exactly if snake case does
not change it. -/
theorem sets_primaryKey_iff {read : ReadFile} {input : String} {request : Request}
    {output : String} (target : request.target = .document)
    (operation : request.operation = .update)
    (succeeds : transpile read input request = .ok output) :
    ∃ file definition record json,
      ModelFile.load read request.model = .ok file ∧
      file.definition? request.table = some definition ∧
      requestedRecord read request = .ok record ∧
      output = line json.pretty ∧
      SetsAllBut (snakeKey definition.primaryKey) record json ∧
      (definition.primaryKey ∈ Entries.names record →
        ((∃ values, setValues? json = some values ∧
            definition.primaryKey ∈ Entries.names values) ↔
          snakeKey definition.primaryKey ≠ definition.primaryKey)) ∧
      (Entries.names record = [definition.primaryKey] →
        (json = .null ↔ snakeKey definition.primaryKey = definition.primaryKey)) := by
  obtain ⟨file, loaded, tail⟩ := exists_of_bind_eq_ok succeeds
  obtain ⟨model, targeted, tail⟩ := exists_of_bind_eq_ok tail
  obtain ⟨query, -, tail⟩ := exists_of_bind_eq_ok tail
  obtain ⟨record, recorded, tail⟩ := exists_of_bind_eq_ok tail
  simp only [target, operation] at tail
  obtain ⟨json, requested, same⟩ := exists_of_bind_eq_ok tail
  cases same
  obtain ⟨definition, defined, defines⟩ := defines_of_targetModel targeted
  have sets := setsAllBut_of_storeRequest (exists_of_mapError_eq_ok requested)
  rw [defines.primaryKey] at sets
  refine ⟨file, definition, record, json, exists_of_mapError_eq_ok loaded, defined, recorded, rfl,
    sets, ?_, ?_⟩
  · intro given
    rw [sets.mem_iff]
    exact ⟨fun ⟨_, changed⟩ => changed.symm, fun changed => ⟨given, Ne.symm changed⟩⟩
  · intro alone
    rw [sets.eq_null_iff, alone, List.forall_mem_singleton, eq_comm]

/-- A model whose primary key is not in snake case, and a record with that key. -/
def companyFiles : ReadFile
  | "model.json" =>
    .ok ("\x7b\"tables\":[\x7b\"name\":\"companies\",\"primary_key\":\"companyId\"," ++
      "\"fields\":\x7b\"companyName\":\"string\"\x7d\x7d]\x7d")
  | "data.json" => .ok "\x7b\"companyId\":7,\"companyName\":\"Vox\"\x7d"
  | _ => .error .notFound

def companyRequest : Request :=
  ⟨"model.json", .document, .update, none, some "data.json", none⟩

def companyUpdate : Update :=
  ⟨[], [("companyId", .int 7), ("companyName", .string "Vox")]⟩

theorem transpile_companyRequest :
    transpile companyFiles "" companyRequest = .ok (line companyUpdate.toJson.pretty) := by
  decide +kernel

theorem sets_primaryKey_iff_companies :
    ∃ file definition record json,
      ModelFile.load companyFiles "model.json" = .ok file ∧
      file.definition? none = some definition ∧
      requestedRecord companyFiles companyRequest = .ok record ∧
      line companyUpdate.toJson.pretty = line json.pretty ∧
      SetsAllBut (snakeKey definition.primaryKey) record json ∧
      (definition.primaryKey ∈ Entries.names record →
        ((∃ values, setValues? json = some values ∧
            definition.primaryKey ∈ Entries.names values) ↔
          snakeKey definition.primaryKey ≠ definition.primaryKey)) ∧
      (Entries.names record = [definition.primaryKey] →
        (json = .null ↔ snakeKey definition.primaryKey = definition.primaryKey)) :=
  sets_primaryKey_iff rfl rfl transpile_companyRequest

/-- The declared primary key is among the values that an update sets. -/
theorem sets_companyId :
    (ModelFile.load companyFiles "model.json").map (·.definition? none) =
      .ok (some ⟨"companies", "companyId", [("companyName", "string")]⟩) ∧
    transpile companyFiles "" companyRequest = .ok (line companyUpdate.toJson.pretty) ∧
    setValues? companyUpdate.toJson =
      some [("companyId", .int 7), ("companyName", .string "Vox")] := by
  refine ⟨?_, transpile_companyRequest, setValues?_toJson companyUpdate⟩
  decide +kernel

end CommandLine

end UniversalQuery
