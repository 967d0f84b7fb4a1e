import UniversalQuery.Proofs.SchemaNames
import UniversalQuery.Proofs.Sql.Meaning
import UniversalQuery.Sql.Statement

set_option autoImplicit false

/-! The conditions that snake case leaves of a query. Keys of one object that become equal are one
key with the last value, so an entry can be lost before a statement is compiled; afterwards none is.
Nothing is lost exactly if the keys of every object that holds conditions stay apart. -/

namespace UniversalQuery

namespace Sql

variable {schema : Schema} {key : String}

/-! ## Conditions entry by entry -/

/-- Whether an object under the key of a field is read as the bounds of a range. -/
def readsRange (schema : Schema) (key : String) : Bool :=
  (FieldPath.ofKey key).isPlain && (schema.fieldType? key).any (· != .json)

mutual

/-- The value of an entry in snake case, in which the entries of members and of ranges are kept. The
key is in snake case already. -/
def entrywiseValue (schema : Schema) (key : String) : Value → Value
  | .array items =>
    match BooleanOperator.ofKey? key with
    | some _ => .array (entrywiseMembers schema items)
    | none => .array (snakeItems items)
  | .object fields =>
    if readsRange schema key then .object (snakeFields fields)
    else .object (Entries.ofPairs (snakeFields fields))
  | scalar => scalar

def entrywiseMembers (schema : Schema) : List Value → List Value
  | [] => []
  | .object fields :: rest => .object (entrywise schema fields) :: entrywiseMembers schema rest
  | item :: rest => item.snakeCased :: entrywiseMembers schema rest

/-- A condition in snake case with one entry for each entry, in order. So it is in the members of
operands, at every depth, and in ranges. -/
def entrywise (schema : Schema) : List (String × Value) → List (String × Value)
  | [] => []
  | (key, value) :: rest =>
    (snakeKey key, entrywiseValue schema (snakeKey key) value) :: entrywise schema rest

end

/-- Whether no two keys become equal in snake case. -/
def haveApartKeys (fields : Document) : Bool :=
  decide ((Entries.names fields).map snakeKey).Nodup

mutual

def staysApartValue (schema : Schema) (key : String) : Value → Bool
  | .array items =>
    match BooleanOperator.ofKey? key with
    | some _ => stayApartMembers schema items
    | none => true
  | .object fields => !readsRange schema key || haveApartKeys fields
  | _ => true

def stayApartMembers (schema : Schema) : List Value → Bool
  | [] => true
  | .object fields :: rest =>
    haveApartKeys fields && stayApartEntries schema fields && stayApartMembers schema rest
  | _ :: rest => stayApartMembers schema rest

/-- Whether the keys in the values of entries stay apart. -/
def stayApartEntries (schema : Schema) : List (String × Value) → Bool
  | [] => true
  | (key, value) :: rest =>
    staysApartValue schema (snakeKey key) value && stayApartEntries schema rest

end

/-- Whether the keys of a condition stay apart in snake case: its own, those of members and those of
ranges. -/
def staysApart (schema : Schema) (document : Document) : Bool :=
  haveApartKeys document && stayApartEntries schema document

private theorem names_entrywise (document : Document) :
    Entries.names (entrywise schema document) = (Entries.names document).map snakeKey := by
  induction document with
  | nil => rfl
  | cons entry rest ih =>
    simp only [Entries.names] at ih
    simp [entrywise, Entries.names, ih]

private theorem haveApartKeys_iff {fields : Document} :
    haveApartKeys fields = true ↔ Entries.ofPairs (snakeFields fields) = snakeFields fields := by
  rw [Entries.ofPairs_eq_self_iff, names_snakeFields, haveApartKeys, decide_eq_true_iff]

/-- The entries of a map are kept if they are distinct to begin with, and then one by one. -/
theorem entrywise_eq_ofPairs_iff {document : Document} :
    entrywise schema document = Entries.ofPairs (snakeFields document) ↔
      haveApartKeys document = true ∧ entrywise schema document = snakeFields document := by
  have spelled : Entries.names (entrywise schema document) =
      Entries.names (snakeFields document) := by
    rw [names_entrywise, names_snakeFields]
  rw [Entries.eq_ofPairs_iff spelled, names_snakeFields, haveApartKeys, decide_eq_true_iff]

mutual

theorem entrywiseValue_eq_iff (key : String) : (value : Value) →
    (entrywiseValue schema key value = value.snakeCased ↔
      staysApartValue schema key value = true)
  | .array items => by
    cases named : BooleanOperator.ofKey? key with
    | none => simp [entrywiseValue, staysApartValue, named, Value.snakeCased]
    | some operator =>
      simp only [entrywiseValue, staysApartValue, named, Value.snakeCased, Value.array.injEq]
      exact entrywiseMembers_eq_iff items
  | .object fields => by
    cases ranged : readsRange schema key with
    | false => simp [entrywiseValue, staysApartValue, ranged, Value.snakeCased]
    | true =>
      simp only [entrywiseValue, staysApartValue, ranged, Value.snakeCased, ↓reduceIte,
        Value.object.injEq, Bool.not_true, Bool.false_or]
      rw [haveApartKeys_iff, eq_comm]
  | .null | .bool _ | .int _ | .float _ | .string _ | .date _ => by
    simp [entrywiseValue, staysApartValue, Value.snakeCased]

theorem entrywiseMembers_eq_iff : (items : List Value) →
    (entrywiseMembers schema items = snakeItems items ↔ stayApartMembers schema items = true)
  | [] => by simp [entrywiseMembers, snakeItems, stayApartMembers]
  | .object fields :: rest => by
    simp only [entrywiseMembers, snakeItems, stayApartMembers, Value.snakeCased, List.cons.injEq,
      Value.object.injEq, Bool.and_eq_true, entrywise_eq_ofPairs_iff, entrywise_eq_iff fields,
      entrywiseMembers_eq_iff rest]
  | .array _ :: rest | .null :: rest | .bool _ :: rest | .int _ :: rest | .float _ :: rest
  | .string _ :: rest | .date _ :: rest => by
    simp [entrywiseMembers, snakeItems, stayApartMembers, entrywiseMembers_eq_iff rest]

theorem entrywise_eq_iff : (document : List (String × Value)) →
    (entrywise schema document = snakeFields document ↔ stayApartEntries schema document = true)
  | [] => by simp [entrywise, snakeFields, stayApartEntries]
  | (key, value) :: rest => by
    simp [entrywise, snakeFields, stayApartEntries, entrywiseValue_eq_iff (snakeKey key) value,
      entrywise_eq_iff rest]

end

/-- Snake case keeps all conditions exactly if their keys stay apart. -/
theorem snakeCased_eq_entrywise_iff {document : Document} :
    document.snakeCased = entrywise schema document ↔ staysApart schema document = true := by
  rw [Document.snakeCased, eq_comm, entrywise_eq_ofPairs_iff, entrywise_eq_iff, staysApart,
    Bool.and_eq_true]

/-! ## Compiled conditions -/

private theorem exists_of_classifyEntry_reject {value : Value} {condition : Option Condition}
    (classified : classifyEntry schema .reject key value = .ok condition) :
    ∃ compiled, condition = some compiled := by
  cases named : BooleanOperator.ofKey? key with
  | none =>
    rw [classifyEntry_field named] at classified
    cases classifiedField classified with
    | dropped _ drops => cases drops
    | path => exact ⟨_, rfl⟩
    | containment => exact ⟨_, rfl⟩
    | range => exact ⟨_, rfl⟩
    | equality => exact ⟨_, rfl⟩
  | some operator =>
    obtain ⟨items, groups, -, -, rfl⟩ := classifyEntry_operator named classified
    exact ⟨_, rfl⟩

/-- The conditions are those of the entries, one for each and in order. -/
def ConditionsOf (schema : Schema) (document : Document) (conditions : List Condition) : Prop :=
  List.Forall₂ (fun entry condition =>
    classifyEntry schema .reject entry.1 entry.2 = .ok (some condition)) document conditions

theorem conditionsOf_of_classify {document : Document} {conditions : List Condition}
    (classified : classify schema .reject document = .ok conditions) :
    ConditionsOf schema document conditions := by
  induction document generalizing conditions with
  | nil =>
    cases classified
    exact .nil
  | cons entry rest ih =>
    obtain ⟨condition, others, first, later, rfl⟩ := classify_cons classified
    obtain ⟨compiled, rfl⟩ := exists_of_classifyEntry_reject first
    exact .cons first (ih later)

/-- The conditions of the statements that a query is compiled to. -/
inductive CompiledConditions (schema : Schema) (policy : UnknownFields) (query : Query) :
    List Condition → Prop where
  | select {conditions : List Condition} {order : List OrderEntry} :
      Statement.ofSelect schema policy query = .ok (.select conditions order) →
      CompiledConditions schema policy query conditions
  | count {conditions : List Condition} :
      Statement.ofCount schema policy query = .ok (.count conditions) →
      CompiledConditions schema policy query conditions
  | update {record : Document} {assignments : List Assignment} {conditions : List Condition} :
      Statement.ofUpdate schema policy query record = .ok (some (.update assignments conditions)) →
      CompiledConditions schema policy query conditions
  | remove {conditions : List Condition} :
      Statement.ofRemove schema policy query = .ok (.remove conditions) →
      CompiledConditions schema policy query conditions

theorem CompiledConditions.queryConditions_eq {policy : UnknownFields} {query : Query}
    {conditions : List Condition} (compiled : CompiledConditions schema policy query conditions) :
    queryConditions schema policy query = .ok conditions := by
  cases compiled with
  | select selected =>
    obtain ⟨known, classified, tail⟩ := exists_of_bind_eq_ok selected
    obtain ⟨order, -, same⟩ := exists_of_bind_eq_ok tail
    cases same
    exact classified
  | count counted =>
    obtain ⟨known, classified, same⟩ := exists_of_map_eq_ok counted
    cases same
    exact classified
  | update updated =>
    unfold Statement.ofUpdate at updated
    split at updated
    · cases updated
    · obtain ⟨known, classified, same⟩ := exists_of_map_eq_ok updated
      cases same
      exact classified
  | remove removed =>
    obtain ⟨known, classified, same⟩ := exists_of_map_eq_ok removed
    cases same
    exact classified

/-- A statement has the conditions of the query in snake case, one for each entry. These are all
conditions of the query exactly if their keys stay apart in snake case. -/
theorem keeps_conditions_iff {query : Query} {document : Document} {conditions : List Condition}
    (given : query.condition = some document)
    (compiled : CompiledConditions schema .reject query conditions) :
    query.snakeCased.condition = some document.snakeCased ∧
    ConditionsOf schema document.snakeCased conditions ∧
    (document.snakeCased = entrywise schema document ↔ staysApart schema document = true) := by
  have normalised : query.snakeCased.condition = some document.snakeCased := by
    simp [Query.snakeCased, given]
  have classified := compiled.queryConditions_eq
  rw [queryConditions, normalised] at classified
  exact ⟨normalised, conditionsOf_of_classify classified, snakeCased_eq_entrywise_iff⟩

/-- Keys that stay apart on every level. -/
def adultsOrClerks : Document :=
  [("Or", .array [
      .object [("Age", .object [("GTE", .int 18), ("lt", .int 65)]), ("name", .string "Jon")],
      .object [("job.jobTitle", .string "clerk"), ("job.job", .string "clerk")]])]

theorem keeps_conditions_iff_adultsOrClerks :
    ∃ conditions, Statement.ofRemove people.schema .reject ⟨some adultsOrClerks, none⟩ =
        .ok (.remove conditions) ∧
      ConditionsOf people.schema adultsOrClerks.snakeCased conditions ∧
      adultsOrClerks.snakeCased = entrywise people.schema adultsOrClerks := by
  have text : (Statement.ofRemove people.schema .reject ⟨some adultsOrClerks, none⟩).map
      (Statement.text people.schema) = .ok ("DELETE FROM people WHERE age >= 18 AND age < 65 " ++
        "OR name='Jon' OR job->>'job_title'='clerk' OR job->>'job'='clerk'") := by decide +kernel
  obtain ⟨statement, removed, -⟩ := exists_of_map_eq_ok text
  obtain ⟨conditions, -, rfl⟩ := exists_of_map_eq_ok removed
  obtain ⟨-, each, kept⟩ := keeps_conditions_iff rfl (.remove removed)
  exact ⟨conditions, removed, each, kept.mpr (by decide +kernel)⟩

/-- Two conditions on one column, spelled in two ways. -/
def spelledTwice : Document :=
  [("name", .string "Jon"), ("Name", .string "Ann")]

/-- The second condition overwrites the first. -/
theorem loses_condition_spelledTwice :
    (Statement.ofRemove people.schema .reject ⟨some spelledTwice, none⟩).map
      (Statement.text people.schema) = .ok "DELETE FROM people WHERE name='Ann'" ∧
    spelledTwice.snakeCased ≠ entrywise people.schema spelledTwice := by
  constructor
  · decide +kernel
  · rw [ne_eq, snakeCased_eq_entrywise_iff]
    decide +kernel

end Sql

end UniversalQuery
