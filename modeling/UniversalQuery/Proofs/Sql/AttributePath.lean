import UniversalQuery.Proofs.Sql.ArrayText
import UniversalQuery.Proofs.Sql.AssignedColumns
import UniversalQuery.Proofs.Sql.QuotedText

set_option autoImplicit false

/-! Paths into JSON columns. A condition names the segments of a path one by one, an update names
them together in an array literal. Both name the same segments as long as every segment can stand
alone in an array. -/

namespace UniversalQuery.Sql

/-! ## Reading paths -/

/-- The names in the steps of a path, of which exactly the last one yields text. -/
def stepNames? : List Piece → Option (List String)
  | [.plain '-', .plain '>', .plain '>', .quoted name] => some [name]
  | .plain '-' :: .plain '>' :: .quoted name :: rest => (stepNames? rest).map (name :: ·)
  | _ => none

def readSteps? (text : String) : Option (List String) :=
  (scan text.toList).bind stepNames?

/-- The items of an array that is written as a quoted literal. -/
def readPath? (text : String) : Option (List (Option String)) :=
  match scan text.toList with
  | some [.quoted content] => arrayItems? content
  | _ => none

def stepPieces : List String → List Piece
  | [] => []
  | [segment] => [.plain '-', .plain '>', .plain '>', .quoted segment]
  | segment :: rest => .plain '-' :: .plain '>' :: .quoted segment :: stepPieces rest

private theorem startsPlain_stepPieces (segments : List String) :
    StartsPlain (stepPieces segments) := by
  intro content
  match segments with
  | [] | [_] | _ :: _ :: _ => simp [stepPieces]

private theorem written_pathSteps (segments : List String) :
    Written (pathSteps segments) (stepPieces segments) := by
  induction segments with
  | nil => exact .empty
  | cons segment rest ih =>
    cases rest with
    | nil => exact (Written.quote segment).plain_append (by decide)
    | cons next rest =>
      have step := (Written.quote segment).append ih (startsPlain_stepPieces _)
      have arrow : '\'' ∉ "->".toList := by decide
      simpa [pathSteps, stepPieces, plainPieces, String.append_assoc] using
        step.plain_append arrow

private theorem stepNames?_stepPieces {segments : List String} (nonempty : segments ≠ []) :
    stepNames? (stepPieces segments) = some segments := by
  induction segments with
  | nil => exact absurd rfl nonempty
  | cons segment rest ih =>
    cases rest with
    | nil => rfl
    | cons next rest => simp [stepPieces, stepNames?, ih]

theorem readSteps?_pathSteps {segments : List String} (nonempty : segments ≠ []) :
    readSteps? (pathSteps segments) = some segments := by
  rw [readSteps?, (written_pathSteps segments).scan_eq]
  exact stepNames?_stepPieces nonempty

theorem readPath?_pathLiteral_iff {segments : List String} (nonempty : segments ≠ []) :
    readPath? (Assignment.pathLiteral segments) = some (segments.map some) ↔
      ∀ segment ∈ segments, IsBareItem segment.toList := by
  rw [readPath?, Assignment.pathLiteral, (Written.quote _).scan_eq]
  exact arrayItems?_eq_iff nonempty

/-! ## Updates of attributes -/

variable {schema : Schema}

theorem get?_grouped (changes : List (String × AttributeUpdate)) (column : String) :
    (Entries.get? (Assignment.grouped changes) column).getD [] =
      (changes.filter (·.1 == column)).map Prod.snd := by
  have collected : ∀ groups,
      (Entries.get? (changes.foldl Assignment.addAttribute groups) column).getD [] =
        (Entries.get? groups column).getD [] ++
          (changes.filter (·.1 == column)).map Prod.snd := by
    induction changes with
    | nil => simp
    | cons change rest ih =>
      intro groups
      rw [List.foldl_cons, ih, Assignment.addAttribute, Entries.get?_put]
      by_cases same : change.1 = column <;> simp [same]
  simpa [Assignment.grouped, Entries.get?] using collected []

private theorem exists_mem_grouped {changes : List (String × AttributeUpdate)} {column : String}
    {update : AttributeUpdate} (member : (column, update) ∈ changes) :
    ∃ updates, (column, updates) ∈ Assignment.grouped changes ∧ update ∈ updates := by
  have named : column ∈ Entries.names (Assignment.grouped changes) :=
    (mem_names_grouped changes column).mpr (List.mem_map_of_mem member)
  obtain ⟨updates, found⟩ :=
    Option.isSome_iff_exists.mp ((Entries.has_eq_true_iff _ _).mpr named)
  have group := get?_grouped changes column
  rw [found, Option.getD_some] at group
  refine ⟨updates, Entries.mem_of_get?_eq_some found, ?_⟩
  rw [group]
  exact List.mem_map.mpr ⟨_, List.mem_filter.mpr ⟨member, beq_self_eq_true column⟩, rfl⟩

/-- One of the assignments gives the column its own value with a new value at a path, which is
written as a literal. Other changes may come before and after. -/
def SetsAt (assignments : List Assignment) (column literal : String) (value : Value) : Prop :=
  ∃ assignment ∈ assignments, ∃ before after : List AttributeUpdate,
    assignment.text = column ++ "=" ++ after.foldl Assignment.attributeText
      ("jsonb_set(" ++ before.foldl Assignment.attributeText (column ++ "::jsonb") ++ ", " ++
        literal ++ ", " ++ jsonLiteral value ++ "::jsonb)")

theorem setsAt_of_mem_ofFields {fields : Document} {key column : String} {segments : List String}
    {value : Value} (member : (key, value) ∈ fields) (different : key ≠ schema.primaryKey)
    (path : FieldPath.ofKey key = ⟨column, segments⟩) (nonempty : segments ≠ [])
    (json : schema.writableType? column = some .json) :
    SetsAt (Assignment.ofFields schema fields) column (Assignment.pathLiteral segments) value := by
  have kept : (key, value) ∈ fields.filter fun field => field.1 != schema.primaryKey :=
    List.mem_filter.mpr ⟨member, bne_iff_ne.mpr different⟩
  have changes : Assignment.attribute? schema (key, value) =
      some (column, ⟨segments, value⟩) := by
    simp [Assignment.attribute?, path, json, FieldPath.isPlain, nonempty]
  obtain ⟨updates, grouped, inside⟩ :=
    exists_mem_grouped (List.mem_filterMap.mpr ⟨_, kept, changes⟩)
  obtain ⟨before, after, rfl⟩ := List.append_of_mem inside
  refine ⟨.attributes column (before ++ ⟨segments, value⟩ :: after), ?_, before, after, ?_⟩
  · exact List.mem_append_right _ (List.mem_map.mpr ⟨_, grouped, rfl⟩)
  · rw [Assignment.text, List.foldl_append, List.foldl_cons]
    rfl

/-! ## Conditions on attributes -/

private theorem isPlain_of_operator {key : String} {operator : BooleanOperator}
    (named : BooleanOperator.ofKey? key = some operator) :
    (FieldPath.ofKey key).isPlain = true := by
  rw [← BooleanOperator.key_of_ofKey? named]
  cases operator <;> decide

theorem predicateText_path {policy : UnknownFields} {key : String} {path : FieldPath}
    (value : Value) (cut : FieldPath.ofKey key = path) (dotted : path.isPlain = false)
    (known : (schema.fieldType? path.root).isSome = true) :
    predicateText schema policy [(key, value)] =
      .ok (reference schema path ++ "=" ++ quote (textOf value)) := by
  subst cut
  have isField : BooleanOperator.ofKey? key = none := by
    cases named : BooleanOperator.ofKey? key with
    | none => rfl
    | some operator =>
      rw [isPlain_of_operator named] at dotted
      cases dotted
  obtain ⟨type, typed⟩ := Option.isSome_iff_exists.mp known
  have classified : classify schema policy [(key, value)] =
      .ok [.jsonPath (FieldPath.ofKey key) value] := by
    rw [classify, classifyEntry_field isField]
    simp only [classifyField, typed, dotted, classify]
    rfl
  have something : jsonPathText schema (FieldPath.ofKey key) value ≠ "" := by
    simp [jsonPathText]
  rw [predicateText, classified]
  simp [Except.map, predicate, renderGroup, render, Predicate.join, Predicate.atom, something]
  rfl

/-- An update and a condition name the same place by a dotted key exactly if each segment of the key
can stand alone in an array. -/
theorem written_path_iff {model : Model} {record : Document} {key column : String}
    {segments : List String} {value : Value} (policy : UnknownFields)
    (member : (key, value) ∈ record.snakeCased) (different : key ≠ model.schema.primaryKey)
    (path : FieldPath.ofKey key = ⟨column, segments⟩) (nonempty : segments ≠ [])
    (json : model.schema.writableType? column = some .json) :
    SetsAt (assignments model.schema record) column (Assignment.pathLiteral segments) value ∧
    predicateText model.schema policy [(key, value)] =
      .ok (columnReference model.schema column ++ pathSteps segments ++ "=" ++
        quote (textOf value)) ∧
    readSteps? (pathSteps segments) = some segments ∧
    (readPath? (Assignment.pathLiteral segments) = some (segments.map some) ↔
      ∀ segment ∈ segments, IsBareItem segment.toList) := by
  refine ⟨?_, ?_, readSteps?_pathSteps nonempty, readPath?_pathLiteral_iff nonempty⟩
  · exact setsAt_of_mem_ofFields member different path nonempty json
  · have dotted : (⟨column, segments⟩ : FieldPath).isPlain = false := by
      simpa [FieldPath.isPlain] using nonempty
    have typed := Model.fieldType?_of_writableType? json
    have known : (model.schema.fieldType? column).isSome = true :=
      Option.isSome_iff_exists.mpr ⟨.json, typed⟩
    have compiled : predicateText model.schema policy [(key, value)] =
        .ok (reference model.schema ⟨column, segments⟩ ++ "=" ++ quote (textOf value)) :=
      predicateText_path value path dotted known
    rwa [reference] at compiled

/-- An attribute with a mark in its name that has no meaning in an array. -/
def mailChange : Document :=
  [("job.e-mail", .string "jon@vox.com")]

theorem written_path_iff_mailChange :
    SetsAt (assignments people.schema mailChange) "job" (Assignment.pathLiteral ["e-mail"])
      (.string "jon@vox.com") ∧
    predicateText people.schema .reject [("job.e-mail", .string "jon@vox.com")] =
      .ok (columnReference people.schema "job" ++ pathSteps ["e-mail"] ++ "=" ++
        quote (textOf (.string "jon@vox.com"))) ∧
    readSteps? (pathSteps ["e-mail"]) = some ["e-mail"] ∧
    (readPath? (Assignment.pathLiteral ["e-mail"]) = some [some "e-mail"] ↔
      ∀ segment ∈ ["e-mail"], IsBareItem segment.toList) := by
  have name : snakeKey "job.e-mail" = "job.e-mail" := by decide +kernel
  have member : ("job.e-mail", Value.string "jon@vox.com") ∈ mailChange.snakeCased := by
    simp [Document.snakeCased, snakeFields, mailChange, name, Value.snakeCased, Entries.ofPairs,
      Entries.put]
  have path : FieldPath.ofKey "job.e-mail" = ⟨"job", ["e-mail"]⟩ := by decide +kernel
  have json : people.schema.writableType? "job" = some .json := by decide +kernel
  exact written_path_iff .reject member (by decide +kernel) path (by decide) json

/-- An attribute with a comma in its name. -/
def commaChange : Document :=
  [("job.a,b", .int 1)]

/-- The condition reads the attribute, but the update writes into another one. -/
theorem readPath?_commaChange :
    (Statement.ofUpdateByKey? people.schema commaChange).map (Statement.text people.schema) =
      some ("UPDATE people SET job=jsonb_set(job::jsonb, '\x7ba,b\x7d', '1'::jsonb) " ++
        "WHERE id=\x7bidPlaceHolder\x7d") ∧
    readPath? "'\x7ba,b\x7d'" = some [some "a", some "b"] ∧
    predicateText people.schema .reject commaChange = .ok "job->>'a,b'='1'" ∧
    readSteps? "->>'a,b'" = some ["a,b"] := by
  refine ⟨?_, ?_, ?_, ?_⟩
  · decide +kernel
  · decide +kernel
  · decide +kernel
  · decide +kernel

end UniversalQuery.Sql
