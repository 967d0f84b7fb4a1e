import UniversalQuery.Proofs.SchemaNames
import UniversalQuery.Proofs.Sql.Meaning
import UniversalQuery.Sql.Statement

set_option autoImplicit false

/-! Entries on unknown fields. Dropping them while a query is compiled is the same as taking them
out of the query first and rejecting what is left, errors included. -/

namespace UniversalQuery.Sql

variable {schema : Schema} {policy : UnknownFields} {key : String}

/-! ## Pruning -/

/-- Whether a key is an operator or refers to a known field. -/
def canResolve (schema : Schema) (key : String) : Bool :=
  (BooleanOperator.ofKey? key).isSome || (schema.fieldType? (rootField key)).isSome

mutual

/-- The value of an entry without unknown fields. Fields stand only in the members of operands. -/
def pruneValue (schema : Schema) (key : String) : Value → Value
  | .array items =>
    match BooleanOperator.ofKey? key with
    | some _ => .array (pruneMembers schema items)
    | none => .array items
  | value => value

def pruneMembers (schema : Schema) : List Value → List Value
  | [] => []
  | .object fields :: rest => .object (prune schema fields) :: pruneMembers schema rest
  | item :: rest => item :: pruneMembers schema rest

/-- A document without its entries on unknown fields, at every depth. Operators stay, whatever is
left under them. -/
def prune (schema : Schema) : List (String × Value) → List (String × Value)
  | [] => []
  | (key, value) :: rest =>
    if canResolve schema key then (key, pruneValue schema key value) :: prune schema rest
    else prune schema rest

end

def pruneOrder (schema : Schema) (entries : List OrderEntry) : List OrderEntry :=
  entries.filter fun entry => (schema.fieldType? (rootField entry.field)).isSome

def pruneQuery (schema : Schema) (query : Query) : Query where
  condition := query.condition.map (prune schema)
  order := query.order.map (pruneOrder schema)

theorem prune_cons_of_canResolve (resolves : canResolve schema key = true) (value : Value)
    (rest : Document) :
    prune schema ((key, value) :: rest) =
      (key, pruneValue schema key value) :: prune schema rest := by
  simp [prune, resolves]

private theorem prune_cons_of_not_canResolve (unknown : canResolve schema key = false)
    (value : Value) (rest : Document) :
    prune schema ((key, value) :: rest) = prune schema rest := by
  simp [prune, unknown]

theorem pruneValue_field (isField : BooleanOperator.ofKey? key = none) (value : Value) :
    pruneValue schema key value = value := by
  cases value <;> simp [pruneValue, isField]

theorem pruneValue_operator {operator : BooleanOperator}
    (named : BooleanOperator.ofKey? key = some operator) (items : List Value) :
    pruneValue schema key (.array items) = .array (pruneMembers schema items) := by
  simp [pruneValue, named]

/-! ## Entries on fields -/

private theorem classifyField_of_known (known : (schema.fieldType? (rootField key)).isSome = true)
    (other : UnknownFields) (value : Value) :
    classifyField schema policy key value = classifyField schema other key value := by
  obtain ⟨type, typed⟩ := Option.isSome_iff_exists.mp known
  rw [rootField] at typed
  simp only [classifyField, typed]

private theorem classifyField_drop (unknown : schema.fieldType? (rootField key) = none)
    (value : Value) : classifyField schema .drop key value = .ok none := by
  rw [rootField] at unknown
  simp [classifyField, unknown, unknownField]

private theorem known_of_classifyField_reject {value : Value} {condition : Option Condition}
    (classified : classifyField schema .reject key value = .ok condition) :
    (schema.fieldType? (rootField key)).isSome = true := by
  cases classifiedField classified with
  | dropped _ drops => cases drops
  | path known _ => rw [known]; rfl
  | containment known _ => rw [known]; rfl
  | range known _ _ _ => rw [known]; rfl
  | equality known _ _ _ => rw [known]; rfl

private theorem classifyEntry_drop_of_not_canResolve (unknown : canResolve schema key = false)
    (value : Value) : classifyEntry schema .drop key value = .ok none := by
  simp only [canResolve, Bool.or_eq_false_iff, Option.isSome_eq_false_iff,
    Option.isNone_iff_eq_none] at unknown
  rw [classifyEntry_field unknown.1, classifyField_drop unknown.2]

private theorem canResolve_of_operator {operator : BooleanOperator}
    (named : BooleanOperator.ofKey? key = some operator) : canResolve schema key = true := by
  simp [canResolve, named]

theorem canResolve_field (isField : BooleanOperator.ofKey? key = none) :
    canResolve schema key = (schema.fieldType? (rootField key)).isSome := by
  simp [canResolve, isField]

/-! ## Dropping and rejecting -/

private theorem classifyEntry_drop_field (isField : BooleanOperator.ofKey? key = none)
    (resolves : canResolve schema key = true) (value : Value) :
    classifyEntry schema .drop key value =
      classifyEntry schema .reject key (pruneValue schema key value) := by
  rw [canResolve_field isField] at resolves
  rw [pruneValue_field isField, classifyEntry_field isField, classifyEntry_field isField]
  exact classifyField_of_known resolves .reject value

/-- What comes first is compared first, so an error stays the first one. -/
theorem classify_drop_cons {value : Value} {rest : Document}
    (entry : canResolve schema key = true →
      classifyEntry schema .drop key value =
        classifyEntry schema .reject key (pruneValue schema key value))
    (others : classify schema .drop rest = classify schema .reject (prune schema rest)) :
    classify schema .drop ((key, value) :: rest) =
      classify schema .reject (prune schema ((key, value) :: rest)) := by
  cases resolves : canResolve schema key with
  | true =>
    rw [prune_cons_of_canResolve resolves, classify, classify, entry resolves, others]
  | false =>
    rw [prune_cons_of_not_canResolve resolves, classify,
      classifyEntry_drop_of_not_canResolve resolves, others]
    cases classify schema .reject (prune schema rest) <;> rfl

private theorem classifyEntry_drop_operator {operator : BooleanOperator} {value : Value}
    (named : BooleanOperator.ofKey? key = some operator)
    (members : ∀ items, value = .array items → classifyGroups schema .drop operator items =
      classifyGroups schema .reject operator (pruneMembers schema items)) :
    classifyEntry schema .drop key value =
      classifyEntry schema .reject key (pruneValue schema key value) := by
  cases value with
  | array items =>
    rw [pruneValue_operator named]
    simp only [classifyEntry, named, members items rfl]
  | _ => simp only [pruneValue, classifyEntry, named]

mutual

theorem classifyEntry_drop (key : String) (resolves : canResolve schema key = true) :
    (value : Value) → classifyEntry schema .drop key value =
      classifyEntry schema .reject key (pruneValue schema key value)
  | value => by
    cases named : BooleanOperator.ofKey? key with
    | none => exact classifyEntry_drop_field named resolves value
    | some operator =>
      refine classifyEntry_drop_operator named fun items same => ?_
      subst same
      exact classifyGroups_drop items

/-- Members that are no objects stay where they are, so the same one is reported. -/
theorem classifyGroups_drop {operator : BooleanOperator} : (items : List Value) →
    classifyGroups schema .drop operator items =
      classifyGroups schema .reject operator (pruneMembers schema items)
  | [] => rfl
  | item :: rest => by
    cases item with
    | object fields =>
      rw [pruneMembers, classifyGroups, classifyGroups, classify_drop fields,
        classifyGroups_drop rest]
    | _ => simp only [pruneMembers, classifyGroups]

theorem classify_drop : (document : List (String × Value)) →
    classify schema .drop document = classify schema .reject (prune schema document)
  | [] => rfl
  | (key, value) :: rest =>
    classify_drop_cons (fun resolves => classifyEntry_drop key resolves value) (classify_drop rest)

end

/-! ## What rejecting accepts -/

mutual

theorem pruneValue_of_classifyEntry (key : String) : (value : Value) →
    {condition : Option Condition} → classifyEntry schema .reject key value = .ok condition →
    canResolve schema key = true ∧ pruneValue schema key value = value
  | value, condition, classified => by
    cases named : BooleanOperator.ofKey? key with
    | none =>
      rw [classifyEntry_field named] at classified
      rw [canResolve_field named]
      exact ⟨known_of_classifyField_reject classified, pruneValue_field named value⟩
    | some operator =>
      obtain ⟨items, groups, rfl, members, -⟩ := classifyEntry_operator named classified
      rw [pruneValue_operator named, pruneMembers_of_classifyGroups items members]
      exact ⟨canResolve_of_operator named, rfl⟩

theorem pruneMembers_of_classifyGroups {operator : BooleanOperator} : (items : List Value) →
    {groups : List (List Condition)} →
    classifyGroups schema .reject operator items = .ok groups → pruneMembers schema items = items
  | [], _, _ => rfl
  | item :: rest, _, classified => by
    obtain ⟨fields, group, others, rfl, first, later, -⟩ := classifyGroups_cons classified
    rw [pruneMembers, prune_of_classify fields first, pruneMembers_of_classifyGroups rest later]

/-- Nothing is taken out of a document that is accepted. -/
theorem prune_of_classify : (document : List (String × Value)) →
    {conditions : List Condition} → classify schema .reject document = .ok conditions →
    prune schema document = document
  | [], _, _ => rfl
  | (key, value) :: rest, _, classified => by
    obtain ⟨condition, others, first, later, -⟩ := classify_cons classified
    obtain ⟨resolves, kept⟩ := pruneValue_of_classifyEntry key value first
    rw [prune_cons_of_canResolve resolves, kept, prune_of_classify rest later]

end

/-! ## What dropping reports -/

/-- The error is about an operator. -/
def IsOperatorError (error : CompileError) : Prop :=
  ∀ field, error ≠ .unresolvableField field

private theorem rangeBounds_error {fields : Document} {error : CompileError}
    (fails : rangeBounds key fields = .error error) : IsOperatorError error := by
  induction fields with
  | nil => cases fails
  | cons field rest ih =>
    obtain ⟨name, bound⟩ := field
    unfold rangeBounds at fails
    split at fails
    · cases fails
      exact fun _ => CompileError.noConfusion
    · rcases eq_or_exists_of_bind_eq_error fails with later | ⟨bounds, -, impossible⟩
      · exact ih later
      · cases impossible

private theorem classifyField_drop_error {value : Value} {error : CompileError}
    (fails : classifyField schema .drop key value = .error error) : IsOperatorError error := by
  unfold classifyField at fails
  dsimp only at fails
  split at fails
  · cases fails
  · split at fails
    · cases fails
    · split at fails
      · cases fails
      · split at fails
        · rcases eq_or_exists_of_bind_eq_error fails with ranged | ⟨bounds, -, impossible⟩
          · exact rangeBounds_error ranged
          · cases impossible
        · cases fails

theorem isOperatorError_operand (operator : BooleanOperator) :
    IsOperatorError (.invalidBooleanOperand operator) :=
  fun _ => CompileError.noConfusion

private theorem classifyEntry_drop_error_operator {operator : BooleanOperator} {value : Value}
    {error : CompileError} (named : BooleanOperator.ofKey? key = some operator)
    (fails : classifyEntry schema .drop key value = .error error) :
    IsOperatorError error ∨ ∃ items, value = .array items ∧
      classifyGroups schema .drop operator items = .error error := by
  cases value with
  | array items =>
    rw [classifyEntry, named] at fails
    rcases eq_or_exists_of_bind_eq_error fails with members | ⟨groups, -, impossible⟩
    · exact .inr ⟨items, rfl, members⟩
    · cases impossible
  | _ =>
    simp only [classifyEntry, named] at fails
    cases fails
    exact .inl (isOperatorError_operand operator)

private theorem classifyGroups_drop_error_cons {operator : BooleanOperator} {item : Value}
    {rest : List Value} {error : CompileError}
    (fails : classifyGroups schema .drop operator (item :: rest) = .error error) :
    IsOperatorError error ∨ classifyGroups schema .drop operator rest = .error error ∨
      ∃ fields, item = .object fields ∧ classify schema .drop fields = .error error := by
  cases item with
  | object fields =>
    rw [classifyGroups] at fails
    rcases eq_or_exists_of_bind_eq_error fails with first | ⟨group, -, tail⟩
    · exact .inr (.inr ⟨fields, rfl, first⟩)
    · rcases eq_or_exists_of_bind_eq_error tail with later | ⟨groups, -, impossible⟩
      · exact .inr (.inl later)
      · cases impossible
  | _ =>
    simp only [classifyGroups] at fails
    cases fails
    exact .inl (isOperatorError_operand operator)

private theorem classify_cons_error {value : Value} {rest : Document} {error : CompileError}
    (fails : classify schema policy ((key, value) :: rest) = .error error) :
    classifyEntry schema policy key value = .error error ∨
      classify schema policy rest = .error error := by
  rw [classify] at fails
  rcases eq_or_exists_of_bind_eq_error fails with first | ⟨condition, -, tail⟩
  · exact .inl first
  · rcases eq_or_exists_of_bind_eq_error tail with later | ⟨conditions, -, impossible⟩
    · exact .inr later
    · cases impossible

mutual

theorem classifyEntry_drop_error (key : String) : (value : Value) → {error : CompileError} →
    classifyEntry schema .drop key value = .error error → IsOperatorError error
  | value, error, fails => by
    cases named : BooleanOperator.ofKey? key with
    | none =>
      rw [classifyEntry_field named] at fails
      exact classifyField_drop_error fails
    | some operator =>
      rcases classifyEntry_drop_error_operator named fails with settled | ⟨items, rfl, members⟩
      · exact settled
      · exact classifyGroups_drop_error items members

theorem classifyGroups_drop_error {operator : BooleanOperator} : (items : List Value) →
    {error : CompileError} → classifyGroups schema .drop operator items = .error error →
    IsOperatorError error
  | [], _, fails => by cases fails
  | item :: rest, _, fails => by
    rcases classifyGroups_drop_error_cons fails with settled | later | ⟨fields, rfl, first⟩
    · exact settled
    · exact classifyGroups_drop_error rest later
    · exact classify_drop_error fields first

theorem classify_drop_error : (document : List (String × Value)) → {error : CompileError} →
    classify schema .drop document = .error error → IsOperatorError error
  | [], _, fails => by cases fails
  | (key, value) :: rest, _, fails => by
    rcases classify_cons_error fails with first | later
    · exact classifyEntry_drop_error key value first
    · exact classify_drop_error rest later

end

/-! ## Orders -/

theorem knownOrder_drop (entries : List OrderEntry) :
    knownOrder schema .drop entries = .ok (pruneOrder schema entries) := by
  induction entries with
  | nil => rfl
  | cons entry rest ih =>
    by_cases known : (schema.fieldType? (rootField entry.field)).isSome = true
    · simp only [knownOrder, known, ↓reduceIte, ih, pruneOrder, List.filter_cons]
      rfl
    · simp [knownOrder, known, ih, pruneOrder]

theorem knownOrder_reject_of_known {entries : List OrderEntry}
    (known : ∀ entry ∈ entries, (schema.fieldType? (rootField entry.field)).isSome = true) :
    knownOrder schema .reject entries = .ok entries := by
  induction entries with
  | nil => rfl
  | cons entry rest ih =>
    have first := known entry List.mem_cons_self
    have later := ih fun other member => known other (List.mem_cons_of_mem entry member)
    simp only [knownOrder, first, ↓reduceIte, later]
    rfl

theorem knownOrder_drop_eq (entries : List OrderEntry) :
    knownOrder schema .drop entries = knownOrder schema .reject (pruneOrder schema entries) := by
  rw [knownOrder_drop, knownOrder_reject_of_known]
  exact fun entry member => (List.mem_filter.mp member).2

theorem pruneOrder_of_knownOrder {entries known : List OrderEntry}
    (accepted : knownOrder schema .reject entries = .ok known) :
    pruneOrder schema entries = entries := by
  induction entries generalizing known with
  | nil => rfl
  | cons entry rest ih =>
    unfold knownOrder at accepted
    split at accepted
    · rename_i resolved
      obtain ⟨others, tail, -⟩ := exists_of_bind_eq_ok accepted
      have kept := ih tail
      simp only [pruneOrder] at kept
      simp [pruneOrder, resolved, kept]
    · cases accepted

/-! ## Clauses and statements -/

theorem predicateText_drop (document : Document) :
    predicateText schema .drop document = predicateText schema .reject (prune schema document) := by
  rw [predicateText, predicateText, classify_drop]

theorem whereText_drop (document : Option Document) :
    whereText schema .drop document = whereText schema .reject (document.map (prune schema)) := by
  cases document with
  | none => rfl
  | some document =>
    simp only [whereText, classifyOptional, Option.map_some, classify_drop]

theorem orderText_drop (order : Option (List OrderEntry)) :
    orderText schema .drop order = orderText schema .reject (order.map (pruneOrder schema)) := by
  cases order with
  | none => rfl
  | some entries => simp only [orderText, Option.getD_some, Option.map_some, knownOrder_drop_eq]

/-- The text of a statement that ends with the condition of a query. -/
def conditionalText (schema : Schema) (policy : UnknownFields) (head : String) (query : Query) :
    Except CompileError String :=
  (whereText schema policy query.condition).map (head ++ ·)

def orderedText (schema : Schema) (policy : UnknownFields) (head : String) (query : Query) :
    Except CompileError String := do
  let condition ← whereText schema policy query.condition
  let order ← orderText schema policy query.order
  .ok (head ++ condition ++ order)

theorem conditionalText_drop (head : String) (query : Query) :
    conditionalText schema .drop head query =
      conditionalText schema .reject head (pruneQuery schema query) := by
  rw [conditionalText, conditionalText, whereText_drop]
  rfl

theorem orderedText_drop (head : String) (query : Query) :
    orderedText schema .drop head query =
      orderedText schema .reject head (pruneQuery schema query) := by
  rw [orderedText, orderedText, whereText_drop, orderText_drop]
  rfl

theorem text_ofSelect (query : Query) :
    (Statement.ofSelect schema policy query).map (Statement.text schema) =
      orderedText schema policy ("SELECT * FROM " ++ schema.table) query.snakeCased := by
  unfold Statement.ofSelect orderedText queryConditions queryOrder whereText orderText
  cases classifyOptional schema policy query.snakeCased.condition with
  | error error => rfl
  | ok conditions =>
    cases knownOrder schema policy (query.snakeCased.order.getD []) <;> rfl

theorem text_ofCount (query : Query) :
    (Statement.ofCount schema policy query).map (Statement.text schema) =
      conditionalText schema policy ("SELECT COUNT(*) FROM " ++ schema.table)
        query.snakeCased := by
  unfold Statement.ofCount conditionalText queryConditions whereText
  cases classifyOptional schema policy query.snakeCased.condition <;> rfl

theorem text_ofRemove (query : Query) :
    (Statement.ofRemove schema policy query).map (Statement.text schema) =
      conditionalText schema policy ("DELETE FROM " ++ schema.table) query.snakeCased := by
  unfold Statement.ofRemove conditionalText queryConditions whereText
  cases classifyOptional schema policy query.snakeCased.condition <;> rfl

/-- Without anything to assign, the condition is not looked at. -/
theorem text_ofUpdate (query : Query) (record : Document) :
    (Statement.ofUpdate schema policy query record).map (Option.map (Statement.text schema)) =
      if assignments schema record = [] then .ok none
      else (conditionalText schema policy ("UPDATE " ++ schema.table ++ " SET " ++
        Statement.assignmentList (assignments schema record)) query.snakeCased).map some := by
  unfold Statement.ofUpdate conditionalText queryConditions whereText
  cases assignments schema record with
  | nil => rfl
  | cons change rest =>
    cases classifyOptional schema policy query.snakeCased.condition <;> rfl

/-- Dropping unknown fields is rejecting them in the query without its entries on unknown fields:
the same texts, the same errors and the same statements. So dropping changes nothing where rejecting
succeeds, and no unknown field is ever reported. -/
theorem drop_eq_reject_pruned (schema : Schema) :
    (∀ document, predicateText schema .drop document =
      predicateText schema .reject (prune schema document)) ∧
    (∀ order, orderText schema .drop order =
      orderText schema .reject (order.map (pruneOrder schema))) ∧
    (∀ document text, predicateText schema .reject document = .ok text →
      predicateText schema .drop document = .ok text) ∧
    (∀ order text, orderText schema .reject order = .ok text →
      orderText schema .drop order = .ok text) ∧
    (∀ document field,
      predicateText schema .drop document ≠ .error (.unresolvableField field)) ∧
    (∀ order field, orderText schema .drop order ≠ .error (.unresolvableField field)) ∧
    ∀ query record,
      (Statement.ofSelect schema .drop query).map (Statement.text schema) =
        orderedText schema .reject ("SELECT * FROM " ++ schema.table)
          (pruneQuery schema query.snakeCased) ∧
      (Statement.ofCount schema .drop query).map (Statement.text schema) =
        conditionalText schema .reject ("SELECT COUNT(*) FROM " ++ schema.table)
          (pruneQuery schema query.snakeCased) ∧
      (Statement.ofRemove schema .drop query).map (Statement.text schema) =
        conditionalText schema .reject ("DELETE FROM " ++ schema.table)
          (pruneQuery schema query.snakeCased) ∧
      (Statement.ofUpdate schema .drop query record).map (Option.map (Statement.text schema)) =
        if assignments schema record = [] then .ok none
        else (conditionalText schema .reject ("UPDATE " ++ schema.table ++ " SET " ++
          Statement.assignmentList (assignments schema record))
            (pruneQuery schema query.snakeCased)).map some := by
  refine ⟨predicateText_drop, orderText_drop, ?_, ?_, ?_, ?_, ?_⟩
  · intro document text accepted
    obtain ⟨conditions, classified, -⟩ := exists_of_map_eq_ok accepted
    rw [predicateText_drop, prune_of_classify document classified, accepted]
  · intro order text accepted
    obtain ⟨known, resolved, -⟩ := exists_of_map_eq_ok accepted
    cases order with
    | none => exact accepted
    | some entries =>
      have kept : pruneOrder schema entries = entries := pruneOrder_of_knownOrder resolved
      rw [orderText_drop, Option.map_some, kept, accepted]
  · intro document field fails
    exact classify_drop_error document (eq_error_of_map_eq_error fails) field rfl
  · intro order field fails
    have accepted : knownOrder schema .drop (order.getD []) =
        .ok (pruneOrder schema (order.getD [])) := knownOrder_drop _
    rw [eq_error_of_map_eq_error fails] at accepted
    cases accepted
  · intro query record
    refine ⟨?_, ?_, ?_, ?_⟩
    · rw [text_ofSelect, orderedText_drop]
    · rw [text_ofCount, conditionalText_drop]
    · rw [text_ofRemove, conditionalText_drop]
    · rw [text_ofUpdate, conditionalText_drop]

/-- Unknown fields on the top level, in a member with others and as all that a member holds. -/
def strangers : Document :=
  [("salary", .int 1),
    ("or", .array [
      .object [("boss.name", .string "Ann")],
      .object [("salary", .object [("over", .int 2)]), ("name", .string "Jon")]])]

theorem drop_eq_reject_pruned_strangers :
    predicateText people.schema .reject strangers = .error (.unresolvableField "salary") ∧
    predicateText people.schema .drop strangers = .ok "name='Jon'" ∧
    predicateText people.schema .reject (prune people.schema strangers) = .ok "name='Jon'" ∧
    predicateText people.schema .drop (prune people.schema strangers) = .ok "name='Jon'" := by
  obtain ⟨pruned, -, kept, -⟩ := drop_eq_reject_pruned people.schema
  have accepted : predicateText people.schema .reject (prune people.schema strangers) =
      .ok "name='Jon'" := by decide +kernel
  refine ⟨by decide +kernel, ?_, accepted, kept _ _ accepted⟩
  rw [pruned, accepted]

end UniversalQuery.Sql
