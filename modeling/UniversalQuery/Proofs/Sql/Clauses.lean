import UniversalQuery.Proofs.Sql.Meaning
import UniversalQuery.Sql.Statement

set_option autoImplicit false

/-! The clauses of a query, and what they read of a schema. Predicates are described entry by entry,
without the conditions in between. From this it follows that the clauses depend on what the schema
says of the root fields of the query, and on nothing else. -/

namespace UniversalQuery

/-! ## Root fields -/

namespace Document

mutual

/-- The fields that an entry of a condition refers to. Operators refer to those of their members. -/
def entryRoots (key : String) : Value → List String
  | .array items =>
    match BooleanOperator.ofKey? key with
    | some _ => memberRoots items
    | none => [rootField key]
  | _ =>
    match BooleanOperator.ofKey? key with
    | some _ => []
    | none => [rootField key]

def memberRoots : List Value → List String
  | [] => []
  | .object fields :: rest => roots fields ++ memberRoots rest
  | _ :: rest => memberRoots rest

def roots : List (String × Value) → List String
  | [] => []
  | (key, value) :: rest => entryRoots key value ++ roots rest

end

private theorem entryRoots_field {key : String} (isField : BooleanOperator.ofKey? key = none)
    (value : Value) : entryRoots key value = [rootField key] := by
  cases value <;> simp [entryRoots, isField]

private theorem entryRoots_operator {key : String} {operator : BooleanOperator}
    (named : BooleanOperator.ofKey? key = some operator) (items : List Value) :
    entryRoots key (.array items) = memberRoots items := by
  simp [entryRoots, named]

end Document

/-- The fields that a query refers to, in its condition at every depth and in its order. -/
def Query.rootFields (query : Query) : List String :=
  Document.roots (query.condition.getD []) ++
    (query.order.getD []).map fun entry => rootField entry.field

/-- Two schemas that say the same of some fields, and write references in the same way. -/
structure Schema.AgreeOn (left right : Schema) (fields : List String) : Prop where
  qualifies : left.qualifies = right.qualifies
  type : ∀ field ∈ fields, left.fieldType? field = right.fieldType? field
  owner : ∀ field ∈ fields, left.owner? field = right.owner? field

theorem Schema.AgreeOn.mono {left right : Schema} {fields others : List String}
    (agree : left.AgreeOn right fields) (subset : others ⊆ fields) : left.AgreeOn right others where
  qualifies := agree.qualifies
  type field member := agree.type field (subset member)
  owner field member := agree.owner field (subset member)

namespace Sql

/-- The two clauses that a query is compiled to: its condition and its order. -/
def clauses (schema : Schema) (policy : UnknownFields) (query : Query) :
    Except CompileError (String × String) := do
  let condition ← whereText schema policy query.snakeCased.condition
  let order ← orderText schema policy query.snakeCased.order
  .ok (condition, order)

variable {schema left right : Schema} {policy : UnknownFields} {key : String}

/-! ## Predicates entry by entry -/

def entryPredicates (schema : Schema) (policy : UnknownFields) (key : String) (value : Value) :
    Except CompileError (List Predicate) :=
  (classifyEntry schema policy key value).map fun condition =>
    renderGroup schema condition.toList

def memberPredicates (schema : Schema) (policy : UnknownFields) (operator : BooleanOperator)
    (items : List Value) : Except CompileError (List Predicate) :=
  (classifyGroups schema policy operator items).map (renderGroups schema)

def documentPredicates (schema : Schema) (policy : UnknownFields) (document : Document) :
    Except CompileError (List Predicate) :=
  (classify schema policy document).map (renderGroup schema)

/-- The predicates of two parts. The first part that fails counts. -/
def chained (first second : Except CompileError (List Predicate)) :
    Except CompileError (List Predicate) :=
  first.bind fun predicates => second.map (predicates ++ ·)

theorem chained_nil (part : Except CompileError (List Predicate)) :
    chained (.ok []) part = part := by
  cases part <;> rfl

theorem chained_nil_right (part : Except CompileError (List Predicate)) :
    chained part (.ok []) = part := by
  cases part with
  | error error => rfl
  | ok predicates => simp [chained, Except.bind, Except.map]

theorem chained_assoc (first second third : Except CompileError (List Predicate)) :
    chained (chained first second) third = chained first (chained second third) := by
  cases first with
  | error error => rfl
  | ok firsts =>
    cases second with
    | error error => rfl
    | ok seconds =>
      cases third with
      | error error => rfl
      | ok thirds => simp [chained, Except.bind, Except.map]

theorem documentPredicates_cons (value : Value) (rest : Document) :
    documentPredicates schema policy ((key, value) :: rest) =
      chained (entryPredicates schema policy key value)
        (documentPredicates schema policy rest) := by
  unfold documentPredicates entryPredicates
  rw [classify]
  cases classifyEntry schema policy key value with
  | error error => rfl
  | ok condition =>
    cases classify schema policy rest with
    | error error => rfl
    | ok conditions => cases condition <;> rfl

theorem memberPredicates_object (operator : BooleanOperator) (fields : Document)
    (rest : List Value) :
    memberPredicates schema policy operator (.object fields :: rest) =
      chained (documentPredicates schema policy fields)
        (memberPredicates schema policy operator rest) := by
  unfold memberPredicates documentPredicates
  rw [classifyGroups]
  cases classify schema policy fields with
  | error error => rfl
  | ok group => cases classifyGroups schema policy operator rest <;> rfl

theorem memberPredicates_other (operator : BooleanOperator) {item : Value} (rest : List Value)
    (noObject : item.asDocument? = none) :
    memberPredicates schema policy operator (item :: rest) =
      .error (.invalidBooleanOperand operator) := by
  cases item with
  | object fields => cases noObject
  | _ => simp only [memberPredicates, classifyGroups, Except.map]

theorem entryPredicates_operator {operator : BooleanOperator}
    (named : BooleanOperator.ofKey? key = some operator) (items : List Value) :
    entryPredicates schema policy key (.array items) =
      (memberPredicates schema policy operator items).map fun predicates =>
        [.join operator predicates] := by
  unfold entryPredicates memberPredicates
  simp only [classifyEntry, named]
  cases classifyGroups schema policy operator items <;> rfl

private theorem entryPredicates_operand {operator : BooleanOperator} {value : Value}
    (named : BooleanOperator.ofKey? key = some operator) (noList : ∀ items, value ≠ .array items) :
    entryPredicates schema policy key value = .error (.invalidBooleanOperand operator) := by
  cases value with
  | array items => exact absurd rfl (noList items)
  | _ => simp only [entryPredicates, classifyEntry, named, Except.map]

/-! ## Schemas that agree -/

theorem columnReference_congr {field : String} (agree : left.AgreeOn right [field]) :
    columnReference left field = columnReference right field := by
  have owner := agree.owner field List.mem_cons_self
  simp only [columnReference, owner, agree.qualifies]

theorem reference_congr {path : FieldPath} (agree : left.AgreeOn right [path.root]) :
    reference left path = reference right path := by
  rw [reference, reference, columnReference_congr agree]

/-- The references in the condition of an entry are to its root field. -/
theorem render_congr {value : Value} {condition : Condition}
    (agree : left.AgreeOn right [rootField key])
    (classified : ClassifiedField right policy key value (some condition)) :
    render left condition = render right condition := by
  have whole : (FieldPath.ofKey key).isPlain = true →
      columnReference left key = columnReference right key := by
    intro plain
    apply columnReference_congr
    rwa [rootField, FieldPath.root_of_isPlain plain] at agree
  cases classified with
  | path => simp only [render, jsonPathText, reference_congr agree]
  | containment _ plain => simp only [render, containmentText, whole plain]
  | range _ plain => simp only [render, boundText, whole plain]
  | equality _ plain => simp only [render, equalityText, whole plain]

private theorem entryPredicates_congr_field (isField : BooleanOperator.ofKey? key = none)
    (agree : left.AgreeOn right [rootField key]) (value : Value) :
    entryPredicates left policy key value = entryPredicates right policy key value := by
  have type := agree.type (rootField key) List.mem_cons_self
  have same : classifyField left policy key value = classifyField right policy key value := by
    rw [rootField] at type
    simp only [classifyField, type]
  unfold entryPredicates
  rw [classifyEntry_field isField, classifyEntry_field isField, same]
  cases classified : classifyField right policy key value with
  | error error => rfl
  | ok condition =>
    cases condition with
    | none => rfl
    | some condition =>
      have rendered := render_congr agree (classifiedField classified)
      simp only [Except.map, Option.toList_some, renderGroup, rendered]

mutual

theorem entryPredicates_congr (key : String) : (value : Value) →
    left.AgreeOn right (Document.entryRoots key value) →
    entryPredicates left policy key value = entryPredicates right policy key value
  | value, agree => by
    cases named : BooleanOperator.ofKey? key with
    | none =>
      rw [Document.entryRoots_field named] at agree
      exact entryPredicates_congr_field named agree value
    | some operator =>
      by_cases list : ∃ items, value = .array items
      · obtain ⟨items, rfl⟩ := list
        rw [Document.entryRoots_operator named] at agree
        rw [entryPredicates_operator named, entryPredicates_operator named,
          memberPredicates_congr operator items agree]
      · have noList : ∀ items, value ≠ .array items := fun items same => list ⟨items, same⟩
        rw [entryPredicates_operand named noList, entryPredicates_operand named noList]

theorem memberPredicates_congr (operator : BooleanOperator) : (items : List Value) →
    left.AgreeOn right (Document.memberRoots items) →
    memberPredicates left policy operator items = memberPredicates right policy operator items
  | [], _ => rfl
  | item :: rest, agree => by
    cases item with
    | object fields =>
      rw [Document.memberRoots] at agree
      have first := documentPredicates_congr fields (agree.mono (List.subset_append_left _ _))
      have others := memberPredicates_congr operator rest
        (agree.mono (List.subset_append_right _ _))
      rw [memberPredicates_object, memberPredicates_object, first, others]
    | _ => rw [memberPredicates_other operator rest rfl, memberPredicates_other operator rest rfl]

theorem documentPredicates_congr : (document : List (String × Value)) →
    left.AgreeOn right (Document.roots document) →
    documentPredicates left policy document = documentPredicates right policy document
  | [], _ => rfl
  | (key, value) :: rest, agree => by
    rw [Document.roots] at agree
    have first := entryPredicates_congr key value (agree.mono (List.subset_append_left _ _))
    have others := documentPredicates_congr rest (agree.mono (List.subset_append_right _ _))
    rw [documentPredicates_cons, documentPredicates_cons, first, others]

end

/-! ## Clauses -/

/-- The clause of the predicates of a document. -/
def clauseOf (predicates : List Predicate) : String :=
  let text := (Predicate.join .and predicates).text
  if text = "" then "" else " WHERE " ++ text

private theorem whereText_some (document : Document) :
    whereText schema policy (some document) =
      (documentPredicates schema policy document).map clauseOf := by
  simp only [whereText, classifyOptional, documentPredicates]
  cases classify schema policy document <;> rfl

theorem whereText_congr {document : Option Document}
    (agree : left.AgreeOn right (Document.roots (document.getD []))) :
    whereText left policy document = whereText right policy document := by
  cases document with
  | none => rfl
  | some document =>
    rw [whereText_some, whereText_some, documentPredicates_congr document agree]

/-! ## Orders -/

def orderItems (schema : Schema) (policy : UnknownFields) (entries : List OrderEntry) :
    Except CompileError (List String) :=
  (knownOrder schema policy entries).map (List.map (orderItem schema))

private theorem orderText_eq (order : Option (List OrderEntry)) :
    orderText schema policy order = (orderItems schema policy (order.getD [])).map fun items =>
      if items = [] then "" else " ORDER BY " ++ ", ".intercalate items := by
  unfold orderText orderItems
  cases knownOrder schema policy (order.getD []) with
  | error error => rfl
  | ok known => cases known <;> rfl

private theorem orderItems_known {entry : OrderEntry} (rest : List OrderEntry)
    (known : (schema.fieldType? (rootField entry.field)).isSome = true) :
    orderItems schema policy (entry :: rest) =
      (orderItems schema policy rest).map (orderItem schema entry :: ·) := by
  simp only [orderItems, knownOrder, known, ↓reduceIte]
  cases knownOrder schema policy rest <;> rfl

private theorem orderItems_unknown {entry : OrderEntry} (rest : List OrderEntry)
    (unknown : ¬ (schema.fieldType? (rootField entry.field)).isSome = true) :
    orderItems schema policy (entry :: rest) =
      match policy with
      | .reject => .error (.unresolvableField entry.field)
      | .drop => orderItems schema policy rest := by
  simp only [orderItems, knownOrder, unknown]
  cases policy <;> rfl

theorem orderItems_congr {entries : List OrderEntry}
    (agree : left.AgreeOn right (entries.map fun entry => rootField entry.field)) :
    orderItems left policy entries = orderItems right policy entries := by
  induction entries with
  | nil => rfl
  | cons entry rest ih =>
    rw [List.map_cons] at agree
    have type := agree.type (rootField entry.field) List.mem_cons_self
    have item : orderItem left entry = orderItem right entry := by
      have root := agree.mono (List.cons_subset_cons _ (List.nil_subset _))
      rw [orderItem, orderItem, reference_congr root]
    have later := ih (agree.mono (List.subset_cons_self _ _))
    by_cases known : (right.fieldType? (rootField entry.field)).isSome = true
    · rw [orderItems_known rest known, orderItems_known rest (type ▸ known), later, item]
    · rw [orderItems_unknown rest known, orderItems_unknown rest (type ▸ known), later]

/-- The clauses of a query depend on what the schema says of its root fields. -/
theorem clauses_congr {query : Query} (agree : left.AgreeOn right query.snakeCased.rootFields)
    (policy : UnknownFields) : clauses left policy query = clauses right policy query := by
  have condition := agree.mono (List.subset_append_left _ _)
  have order := agree.mono (List.subset_append_right _ _)
  unfold clauses
  rw [whereText_congr condition, orderText_eq, orderText_eq, orderItems_congr order]

end Sql

end UniversalQuery
