import UniversalQuery.Proofs.Sql.ConditionGrammar
import UniversalQuery.Proofs.Sql.UnknownFields

set_option autoImplicit false

/-! Conditions that ask for nothing. The clause of a condition is empty exactly if the condition is
vacuous at every depth, so these are the conditions under which an update or a removal is about all
rows of its table. -/

namespace UniversalQuery.Sql

variable {schema : Schema} {policy : UnknownFields} {key : String}

/-! ## Vacuous documents -/

inductive VacuousEntry (schema : Schema) (policy : UnknownFields) : String × Value → Prop where
  | joined (operator : BooleanOperator) {members : List Document} :
      (∀ member ∈ members, ∀ entry ∈ member, VacuousEntry schema policy entry) →
      VacuousEntry schema policy (operator.key, .array (members.map Value.object))
  | dropped {key : String} {value : Value} :
      policy = .drop → (∀ operator : BooleanOperator, key ≠ operator.key) →
      schema.fieldType? (rootField key) = none →
      VacuousEntry schema policy (key, value)
  | unbounded {key : String} {type : FieldType} :
      IsWholeField key → schema.fieldType? key = some type → type ≠ .json →
      VacuousEntry schema policy (key, .object [])

def Vacuous (schema : Schema) (policy : UnknownFields) (document : Document) : Prop :=
  ∀ entry ∈ document, VacuousEntry schema policy entry

def AreVacuousMembers (schema : Schema) (policy : UnknownFields) (items : List Value) : Prop :=
  ∃ members : List Document, items = members.map Value.object ∧
    ∀ member ∈ members, Vacuous schema policy member

/-- A condition that is absent or vacuous. -/
def AsksNothing (schema : Schema) (policy : UnknownFields) (condition : Option Document) : Prop :=
  ∀ document, condition = some document → Vacuous schema policy document

theorem asksNothing_some_iff {document : Document} :
    AsksNothing schema policy (some document) ↔ Vacuous schema policy document :=
  ⟨fun nothing => nothing document rfl, fun vacuous _ same => Option.some.inj same ▸ vacuous⟩

private theorem vacuous_nil : Vacuous schema policy [] :=
  fun _ member => absurd member List.not_mem_nil

private theorem vacuous_cons_iff {entry : String × Value} {rest : Document} :
    Vacuous schema policy (entry :: rest) ↔
      VacuousEntry schema policy entry ∧ Vacuous schema policy rest :=
  List.forall_mem_cons

private theorem areVacuousMembers_nil : AreVacuousMembers schema policy [] :=
  ⟨[], rfl, fun _ member => absurd member List.not_mem_nil⟩

private theorem areVacuousMembers_cons_iff {fields : Document} {rest : List Value} :
    AreVacuousMembers schema policy (.object fields :: rest) ↔
      Vacuous schema policy fields ∧ AreVacuousMembers schema policy rest := by
  constructor
  · rintro ⟨members, same, vacuous⟩
    cases members with
    | nil => cases same
    | cons member others =>
      cases same
      obtain ⟨first, later⟩ := List.forall_mem_cons.mp vacuous
      exact ⟨first, others, rfl, later⟩
  · rintro ⟨first, members, rfl, later⟩
    exact ⟨fields :: members, rfl, List.forall_mem_cons.mpr ⟨first, later⟩⟩

private theorem vacuousEntry_operator_iff {operator : BooleanOperator} {items : List Value} :
    VacuousEntry schema policy (operator.key, .array items) ↔
      AreVacuousMembers schema policy items := by
  constructor
  · generalize named : operator.key = key
    intro vacuous
    cases vacuous with
    | joined _ members => exact ⟨_, rfl, members⟩
    | dropped _ isField _ => exact absurd named.symm (isField operator)
  · rintro ⟨members, rfl, vacuous⟩
    exact .joined operator vacuous

/-- Of the entries on known fields, only ranges without bounds ask for nothing. -/
theorem isUnbounded_of_vacuousEntry {value : Value} {type : FieldType}
    (isField : ∀ operator : BooleanOperator, key ≠ operator.key)
    (known : schema.fieldType? (rootField key) = some type)
    (vacuous : VacuousEntry schema policy (key, value)) :
    '.' ∉ key.toList ∧ type ≠ .json ∧ value = .object [] := by
  cases vacuous with
  | joined operator => exact absurd rfl (isField operator)
  | dropped _ _ unknown =>
    rw [unknown] at known
    cases known
  | unbounded whole declared scalar =>
    rw [FieldPath.rootField_of_not_mem whole.plain, declared] at known
    cases known
    exact ⟨whole.plain, scalar, rfl⟩

/-! ## Empty predicates -/

def IsSilent (predicates : List Predicate) : Prop :=
  ∀ predicate ∈ predicates, predicate.text = ""

theorem isSilent_nil : IsSilent [] :=
  fun _ member => absurd member List.not_mem_nil

private theorem isSilent_append_iff {first second : List Predicate} :
    IsSilent (first ++ second) ↔ IsSilent first ∧ IsSilent second :=
  List.forall_mem_append

theorem isSilent_joined_iff {operator : BooleanOperator} {predicates : List Predicate} :
    IsSilent [.join operator predicates] ↔ IsSilent predicates := by
  rw [IsSilent, List.forall_mem_singleton]
  exact Predicate.join_text_eq_empty_iff

private theorem not_isSilent_atom {text : String} (visible : text ≠ "") :
    ¬ IsSilent [.atom text] := by
  rw [IsSilent, List.forall_mem_singleton]
  exact visible

private theorem isSilent_bounds_iff {field : String} {type : FieldType}
    {bounds : List (ComparisonOperator × Value)} :
    IsSilent (bounds.map fun bound => .atom (boundText schema field type bound)) ↔
      bounds = [] := by
  cases bounds with
  | nil => exact iff_of_true isSilent_nil rfl
  | cons bound rest =>
    refine iff_of_false (fun silent => ?_) (List.cons_ne_nil _ _)
    have empty := silent _ List.mem_cons_self
    simp [Predicate.atom, boundText] at empty

private theorem rangeBounds_eq_nil_iff {fields : Document}
    {bounds : List (ComparisonOperator × Value)} (ranged : rangeBounds key fields = .ok bounds) :
    bounds = [] ↔ fields = [] := by
  cases forall₂_of_rangeBounds ranged with
  | nil => exact iff_of_true rfl rfl
  | cons => exact iff_of_false (List.cons_ne_nil _ _) (List.cons_ne_nil _ _)

private theorem isSilent_field_iff {value : Value} {condition : Option Condition}
    (isField : ∀ operator : BooleanOperator, key ≠ operator.key)
    (classified : ClassifiedField schema policy key value condition) :
    IsSilent (renderGroup schema condition.toList) ↔
      VacuousEntry schema policy (key, value) := by
  -- What is written for a field has text of its own, but for a range without bounds.
  cases classified with
  | dropped unknown drops =>
    exact iff_of_true isSilent_nil (.dropped drops isField unknown)
  | path known dotted =>
    refine iff_of_false (not_isSilent_atom (by simp [jsonPathText])) fun vacuous => ?_
    obtain ⟨plain, -, -⟩ := isUnbounded_of_vacuousEntry isField known vacuous
    exact plain (FieldPath.isPlain_eq_false_iff.mp dotted)
  | containment known plain =>
    refine iff_of_false (not_isSilent_atom (by simp [containmentText])) fun vacuous => ?_
    obtain ⟨-, scalar, -⟩ := isUnbounded_of_vacuousEntry isField known vacuous
    exact scalar rfl
  | @range type fields bounds known plain scalar ranged =>
    have silent : IsSilent (renderGroup schema [.range key type bounds]) ↔ fields = [] :=
      isSilent_joined_iff.trans (isSilent_bounds_iff.trans (rangeBounds_eq_nil_iff ranged))
    refine silent.trans ⟨?_, fun vacuous => ?_⟩
    · rintro rfl
      rw [rootField, FieldPath.root_of_isPlain plain] at known
      exact .unbounded ⟨isField, FieldPath.isPlain_iff.mp plain⟩ known scalar
    · obtain ⟨-, -, same⟩ := isUnbounded_of_vacuousEntry isField known vacuous
      exact Value.object.inj same
  | equality known plain scalar noObject =>
    refine iff_of_false (not_isSilent_atom (by simp [equalityText])) fun vacuous => ?_
    obtain ⟨-, -, rfl⟩ := isUnbounded_of_vacuousEntry isField known vacuous
    cases noObject

mutual

theorem isSilent_entry_iff (key : String) : (value : Value) → {condition : Option Condition} →
    classifyEntry schema policy key value = .ok condition →
    (IsSilent (renderGroup schema condition.toList) ↔ VacuousEntry schema policy (key, value))
  | value, condition, classified => by
    cases named : BooleanOperator.ofKey? key with
    | none =>
      rw [classifyEntry_field named] at classified
      exact isSilent_field_iff (BooleanOperator.ofKey?_eq_none_iff.mp named)
        (classifiedField classified)
    | some operator =>
      obtain ⟨items, groups, rfl, members, rfl⟩ := classifyEntry_operator named classified
      rw [← BooleanOperator.key_of_ofKey? named]
      exact isSilent_joined_iff.trans
        ((isSilent_members_iff items members).trans vacuousEntry_operator_iff.symm)

theorem isSilent_members_iff {operator : BooleanOperator} : (items : List Value) →
    {groups : List (List Condition)} →
    classifyGroups schema policy operator items = .ok groups →
    (IsSilent (renderGroups schema groups) ↔ AreVacuousMembers schema policy items)
  | [], _, classified => by
    cases classified
    exact iff_of_true isSilent_nil areVacuousMembers_nil
  | item :: rest, _, classified => by
    obtain ⟨fields, group, others, rfl, first, later, rfl⟩ := classifyGroups_cons classified
    rw [renderGroups, isSilent_append_iff, areVacuousMembers_cons_iff,
      isSilent_document_iff fields first, isSilent_members_iff rest later]

theorem isSilent_document_iff : (document : List (String × Value)) →
    {conditions : List Condition} → classify schema policy document = .ok conditions →
    (IsSilent (renderGroup schema conditions) ↔ Vacuous schema policy document)
  | [], _, classified => by
    cases classified
    exact iff_of_true isSilent_nil vacuous_nil
  | (key, value) :: rest, _, classified => by
    obtain ⟨condition, others, first, later, rfl⟩ := classify_cons classified
    rw [renderGroup_append, isSilent_append_iff, vacuous_cons_iff,
      isSilent_entry_iff key value first, isSilent_document_iff rest later]

end

theorem predicate_eq_empty_iff {document : Document} {conditions : List Condition}
    (classified : classify schema policy document = .ok conditions) :
    (predicate schema conditions).text = "" ↔ Vacuous schema policy document :=
  Predicate.join_text_eq_empty_iff.trans (isSilent_document_iff document classified)

/-! ## Empty clauses -/

theorem whereClause_eq_empty_iff {conditions : List Condition} :
    whereClause schema conditions = "" ↔ (predicate schema conditions).text = "" := by
  unfold whereClause
  dsimp only
  split
  · rename_i empty
    exact iff_of_true rfl empty
  · rename_i visible
    exact iff_of_false (by simp) visible

theorem whereText_eq_empty_iff {condition : Option Document} {clause : String}
    (compiled : whereText schema policy condition = .ok clause) :
    clause = "" ↔ AsksNothing schema policy condition := by
  obtain ⟨conditions, classified, rfl⟩ := exists_of_map_eq_ok compiled
  rw [whereClause_eq_empty_iff]
  cases condition with
  | none =>
    cases classified
    exact iff_of_true rfl fun _ absent => by cases absent
  | some document =>
    rw [predicate_eq_empty_iff classified, asksNothing_some_iff]

theorem exists_predicate_of_whereText {document : Document} {clause : String}
    (compiled : whereText schema policy (some document) = .ok clause) (visible : clause ≠ "") :
    ∃ text, predicateText schema policy document = .ok text ∧ text ≠ "" ∧
      clause = " WHERE " ++ text := by
  obtain ⟨conditions, classified, rfl⟩ := exists_of_map_eq_ok compiled
  have text := mt whereClause_eq_empty_iff.mpr visible
  refine ⟨_, ?_, text, ?_⟩
  · rw [predicateText]
    exact congrArg _ classified
  · simp only [whereClause, if_neg text]

theorem conditionalText_eq_head_iff {head text : String} {query : Query}
    (compiled : conditionalText schema policy head query = .ok text) :
    text = head ↔ AsksNothing schema policy query.condition := by
  obtain ⟨clause, written, rfl⟩ := exists_of_map_eq_ok compiled
  rw [← whereText_eq_empty_iff written]
  simp

/-- The clause of a condition is empty exactly if the condition is vacuous, and otherwise holds a
predicate that is not empty. So a removal or an update has no clause after its head, and is about the
whole table, exactly if its condition in snake case is absent or vacuous. -/
theorem unconditional_iff (schema : Schema) (policy : UnknownFields) :
    (∀ document clause, whereText schema policy (some document) = .ok clause →
      (clause = "" ↔ Vacuous schema policy document) ∧
      (clause ≠ "" → ∃ text, predicateText schema policy document = .ok text ∧ text ≠ "" ∧
        clause = " WHERE " ++ text)) ∧
    (∀ query statement, Statement.ofRemove schema policy query = .ok statement →
      (statement.text schema = "DELETE FROM " ++ schema.table ↔
        AsksNothing schema policy query.snakeCased.condition)) ∧
    ∀ query record statement,
      Statement.ofUpdate schema policy query record = .ok (some statement) →
      (statement.text schema = "UPDATE " ++ schema.table ++ " SET " ++
          Statement.assignmentList (assignments schema record) ↔
        AsksNothing schema policy query.snakeCased.condition) := by
  refine ⟨?_, ?_, ?_⟩
  · intro document clause compiled
    refine ⟨?_, exists_predicate_of_whereText compiled⟩
    rw [whereText_eq_empty_iff compiled, asksNothing_some_iff]
  · intro query statement compiled
    have text := @text_ofRemove schema policy query
    rw [compiled] at text
    exact conditionalText_eq_head_iff text.symm
  · intro query record statement compiled
    have text := @text_ofUpdate schema policy query record
    rw [compiled] at text
    split at text
    · cases text
    · obtain ⟨whole, written, same⟩ := exists_of_map_eq_ok text.symm
      cases same
      exact conditionalText_eq_head_iff written

/-- All the ways to ask for nothing, one inside the other. -/
def idle : Document :=
  [("and", .array [
      .object [("or", .array [.object [("salary", .int 1)], .object []]), ("age", .object [])],
      .object [("boss.name", .string "Ann")]])]

theorem unconditional_iff_idle :
    whereText people.schema .drop (some idle) = .ok "" ∧
    Vacuous people.schema .drop idle ∧
    whereText people.schema .drop (some strangers) = .ok " WHERE name='Jon'" ∧
    ¬ Vacuous people.schema .drop strangers ∧
    (Statement.ofRemove people.schema .drop ⟨some idle, none⟩).map (Statement.text people.schema) =
      .ok "DELETE FROM people" ∧
    (Statement.ofUpdate people.schema .drop ⟨some strangers, none⟩ [("age", .int 3)]).map
      (Option.map (Statement.text people.schema)) =
        .ok (some "UPDATE people SET age=3 WHERE name='Jon'") ∧
    AsksNothing people.schema .drop (Query.snakeCased ⟨some idle, none⟩).condition ∧
    ¬ AsksNothing people.schema .drop (Query.snakeCased ⟨some strangers, none⟩).condition := by
  obtain ⟨clauses, removals, updates⟩ := unconditional_iff people.schema .drop
  have empty : whereText people.schema .drop (some idle) = .ok "" := by decide +kernel
  have clause : whereText people.schema .drop (some strangers) = .ok " WHERE name='Jon'" := by
    decide +kernel
  have removal : (Statement.ofRemove people.schema .drop ⟨some idle, none⟩).map
      (Statement.text people.schema) = .ok "DELETE FROM people" := by decide +kernel
  have update : (Statement.ofUpdate people.schema .drop ⟨some strangers, none⟩
      [("age", .int 3)]).map (Option.map (Statement.text people.schema)) =
        .ok (some "UPDATE people SET age=3 WHERE name='Jon'") := by decide +kernel
  obtain ⟨removing, removed, alone⟩ := exists_of_map_eq_ok removal
  obtain ⟨written, updated, shown⟩ := exists_of_map_eq_ok update
  obtain ⟨updating, rfl, text⟩ := Option.map_eq_some_iff.mp shown
  refine ⟨empty, (clauses _ _ empty).1.mp rfl, clause, fun vacuous => ?_, removal, update,
    (removals _ removing removed).mp alone, fun nothing => ?_⟩
  · exact absurd ((clauses _ _ clause).1.mpr vacuous) (by decide)
  · have bare := (updates _ _ updating updated).mpr nothing
    rw [text] at bare
    revert bare
    decide +kernel

end UniversalQuery.Sql
