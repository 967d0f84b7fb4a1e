import Mathlib.Data.List.Forall2
import UniversalQuery.ModelFile.Storage
import UniversalQuery.Proofs.Json.WrittenText
import UniversalQuery.Proofs.Outcomes
import UniversalQuery.Proofs.QueryRoundTrip
import UniversalQuery.Proofs.WrittenFiles

set_option autoImplicit false

/-! The JSON form of a model file is read back as the file. -/

namespace UniversalQuery

namespace Json

/-- A record fits if each of its members is a field of it and fits that field. -/
theorem Fits.record {fields : Entries Shape} {levels : Nat} {members : List (String × Json)}
    (each : ∀ member ∈ members,
      ∃ shape, Entries.get? fields member.1 = some shape ∧ Fits shape levels member.2) :
    Fits (.record fields) (levels + 1) (.object members) := by
  refine .object (fun name => (Entries.get? fields name).getD .whole) ?_ ?_
  · intro member inside
    obtain ⟨shape, found, -⟩ := each member inside
    simp [Shape.member?, found]
  · intro member inside
    obtain ⟨shape, found, fits⟩ := each member inside
    simpa [found] using fits

/-- An object of strings fits where everything is looked at. -/
theorem Fits.strings {levels : Nat} (entries : Entries String) :
    Fits .whole (levels + 1) (.object (entries.map fun entry => (entry.1, .string entry.2))) := by
  refine .object (fun _ => .whole) (fun _ _ => rfl) ?_
  intro member inside
  obtain ⟨entry, -, rfl⟩ := List.mem_map.mp inside
  exact .string entry.2

end Json

open Json (Fits)

/-! ## Shapes -/

namespace ModelFile

private theorem fits_table (definition : TableDefinition) (levels : Nat) :
    Fits (.record [("name", .whole), ("primary_key", .whole), ("fields", .whole)]) (levels + 2)
      definition.toJson := by
  apply Fits.record
  intro member inside
  simp only [List.mem_cons, List.not_mem_nil, or_false] at inside
  obtain rfl | rfl | rfl := inside
  · exact ⟨.whole, rfl, .string _⟩
  · exact ⟨.whole, rfl, .string _⟩
  · exact ⟨.whole, rfl, Fits.strings definition.fields⟩

private theorem fits_options (options : ModelOptions) (levels : Nat) :
    Fits (.record [("qualify", .whole), ("unknown_fields", .whole)]) (levels + 1)
      options.toJson := by
  apply Fits.record
  intro member inside
  simp only [List.mem_cons, List.not_mem_nil, or_false] at inside
  obtain rfl | rfl := inside
  · exact ⟨.whole, rfl, .string _⟩
  · exact ⟨.whole, rfl, .string _⟩

private theorem fits_toJson (file : ModelFile) (levels : Nat) :
    Fits shape (levels + 4) file.toJson := by
  apply Fits.record
  intro member inside
  simp only [List.mem_cons, List.not_mem_nil, or_false] at inside
  obtain rfl | rfl := inside
  · refine ⟨_, rfl, .array rfl ?_⟩
    intro item written
    obtain ⟨definition, -, rfl⟩ := List.mem_map.mp written
    exact fits_table definition levels
  · exact ⟨_, rfl, fits_options file.options (levels + 2)⟩

/-! ## Nodes -/

theorem Node.ofJsonMembers_eq_map (members : List (String × Json)) :
    ofJsonMembers members = members.map fun member => (.text member.1, ofJson member.2) := by
  induction members with
  | nil => rfl
  | cons member members ih =>
    obtain ⟨name, value⟩ := member
    rw [ofJsonMembers, ih, List.map_cons]

theorem Node.ofJsonItems_eq_map (items : List Json) : ofJsonItems items = items.map ofJson := by
  induction items with
  | nil => rfl
  | cons item items ih => rw [ofJsonItems, ih, List.map_cons]

theorem Node.asMembers?_ofJson (members : Entries Json) :
    (ofJson (.object members)).asMembers? = some (Entries.mapValues ofJson members) := by
  rw [ofJson, asMembers?, ofJsonMembers_eq_map, mapM_eq_some_iff, Entries.mapValues,
    List.forall₂_map_left_iff, List.forall₂_map_right_iff, List.forall₂_same]
  intro member _
  rfl

/-- The fields of a written record are found by their names. -/
theorem Node.fields?_ofJson (names : List String) {members : Entries Json}
    (distinct : (Entries.names members).Nodup) :
    (ofJson (.object members)).fields? names =
      some (names.map fun name => (Entries.get? members name).map ofJson) := by
  change (ofJson (.object members)).asMembers? >>= Record.ofMembers? names = _
  rw [asMembers?_ofJson, Option.bind_eq_bind, Option.bind_some, Record.ofMembers?_of_nodup]
  · simp [Entries.get?_mapValues]
  · rw [Entries.names_mapValues]
    exact distinct

private theorem typeNames?_ofJson {fields : Entries String}
    (distinct : (Entries.names fields).Nodup) :
    typeNames? (.ofJson (.object (Entries.mapValues .string fields))) = some fields := by
  have types : (Entries.mapValues Node.ofJson (Entries.mapValues .string fields)).mapM
      (fun member => member.2.asText?.map (member.1, ·)) = some fields := by
    rw [mapM_eq_some_iff, Entries.mapValues, Entries.mapValues, List.forall₂_map_left_iff,
      List.forall₂_map_left_iff, List.forall₂_same]
    intro field _
    rfl
  rw [typeNames?, Node.asMembers?_ofJson, Option.bind_eq_bind, Option.bind_some, types]
  exact congrArg some (Entries.ofPairs_of_nodup distinct)

private theorem tableOfNode?_toJson {definition : TableDefinition}
    (distinct : (Entries.names definition.fields).Nodup) :
    tableOfNode? (.ofJson definition.toJson) = some definition := by
  have parts : (Node.ofJson definition.toJson).fields? ["name", "primary_key", "fields"] =
      some [some (.text definition.name), some (.text definition.primaryKey),
        some (.ofJson (.object (Entries.mapValues .string definition.fields)))] :=
    Node.fields?_ofJson _ (by simp [Entries.names])
  rw [tableOfNode?, parts]
  simp [Node.orElse, typeNames?_ofJson distinct, Node.asText?]

private theorem optionsOfNode?_toJson (options : ModelOptions) :
    optionsOfNode? (.ofJson options.toJson) = some options := by
  have parts : (Node.ofJson options.toJson).fields? ["qualify", "unknown_fields"] =
      some [some (.text options.qualify.name), some (.text options.unknownFields.name)] :=
    Node.fields?_ofJson _ (by simp [Entries.names])
  have qualify : Qualify.ofName? options.qualify.name = some options.qualify := by
    cases options.qualify <;> rfl
  have unknownFields :
      UnknownFields.ofName? options.unknownFields.name = some options.unknownFields := by
    cases options.unknownFields <;> rfl
  rw [optionsOfNode?, parts]
  simp [Node.orElse, Node.setting?, qualify, unknownFields]

/-- The field names of every table are distinct, as those of a map are. -/
def HasDistinctFields (file : ModelFile) : Prop :=
  ∀ definition ∈ file.tables, (Entries.names definition.fields).Nodup

variable {file : ModelFile}

private theorem ofNode?_toJson (distinct : file.HasDistinctFields) :
    ofNode? (.ofJson file.toJson) = some file := by
  have parts : (Node.ofJson file.toJson).fields? ["tables", "options"] =
      some [some (.ofJson (.array (file.tables.map TableDefinition.toJson))),
        some (.ofJson file.options.toJson)] :=
    Node.fields?_ofJson _ (by simp [Entries.names])
  have tables : (Node.ofJsonItems (file.tables.map TableDefinition.toJson)).mapM tableOfNode? =
      some file.tables := by
    rw [Node.ofJsonItems_eq_map, mapM_eq_some_iff, List.forall₂_map_left_iff,
      List.forall₂_map_left_iff, List.forall₂_same]
    intro definition inside
    exact tableOfNode?_toJson (distinct definition inside)
  rw [ofNode?, parts]
  simp [Node.orElse, Node.ofJson, Node.asList?, tables, optionsOfNode?_toJson]

/-- The text of a file is read as that file. -/
theorem ofJsonText?_jsonText (distinct : file.HasDistinctFields) :
    ofJsonText? file.jsonText = some file := by
  have read : Json.ofText? shape file.jsonText = some file.toJson :=
    Json.ofText?_pretty (fits_toJson file 123)
  rw [ofJsonText?, read, Option.bind_eq_bind, Option.bind_some, ofNode?_toJson distinct]

/-- A file that is loaded from where its text stands is that file. -/
theorem load_jsonText (distinct : file.HasDistinctFields)
    {read : String → Except FileError String} {path : String}
    (json : ModelFormat.ofPath? path = some .json) (found : read path = .ok file.jsonText) :
    load read path = .ok file := by
  simp [load, json, found, ofText?, ofJsonText?_jsonText distinct]

/-- A model file that is saved to a JSON path loads from there unchanged, whatever else is in the
file tree. The strings in it may be any, and its tables and their fields keep their order. -/
theorem load_of_save (distinct : file.HasDistinctFields) {tree saved : FileTree} {path : String}
    (json : ModelFormat.ofPath? path = some .json) (saves : file.save tree path = .ok saved) :
    saved.read path = .ok file.jsonText ∧ load saved.read path = .ok file := by
  have writes : tree.write path file.jsonText = .ok saved := by
    rw [save, json] at saves
    exact exists_of_mapError_eq_ok saves
  have found := FileTree.read_of_write writes
  exact ⟨found, load_jsonText distinct json found⟩

/-- A file with quotes, backslashes, control characters and letters beyond ASCII in its names. -/
def oddFile : ModelFile where
  tables :=
    [⟨"a \"b\" \\ c", "\n\t\x01",
      [("tête", "Σ\x1f"), ("", "string"), ("Zebra", "int"), ("apple", "\\u0041")]⟩,
     ⟨"", "", []⟩]
  options := ⟨.never, .drop⟩

theorem load_of_save_oddFile :
    ∃ saved, oddFile.save [(["models", "old.json"], "[]")] "models/./odd.json" = .ok saved ∧
      saved.read "models/./odd.json" = .ok oddFile.jsonText ∧
      load saved.read "models/./odd.json" = .ok oddFile := by
  have distinct : oddFile.HasDistinctFields := by
    unfold HasDistinctFields
    decide
  have json : ModelFormat.ofPath? "models/./odd.json" = some .json := by decide +kernel
  have writable :
      (oddFile.save [(["models", "old.json"], "[]")] "models/./odd.json").isOk = true := by
    decide +kernel
  cases saves : oddFile.save [(["models", "old.json"], "[]")] "models/./odd.json" with
  | error error =>
    rw [saves] at writable
    cases writable
  | ok saved => exact ⟨saved, rfl, load_of_save distinct json saves⟩

end ModelFile

end UniversalQuery
