import UniversalQuery.Proofs.Sql.OrderReferences
import UniversalQuery.Proofs.Sql.StatementParts

set_option autoImplicit false

/-! The columns in a statement. A condition refers to one field for each comparison in its meaning
and an order to one for each known entry, in order. Assignments and rows refer to none: their
columns are written. -/

namespace UniversalQuery.Sql

open Formula

variable {schema : Schema} {policy : UnknownFields} {key : String}

/-! ## Columns -/

def Part.isColumn : Part → Bool
  | .written _ => true
  | .reference _ _ => true
  | _ => false

/-- The columns among parts: those that are written and those that are referred to. -/
def columns (parts : List Part) : List Part :=
  parts.filter Part.isColumn

@[simp] theorem columns_append (first second : List Part) :
    columns (first ++ second) = columns first ++ columns second :=
  List.filter_append first second

theorem columns_series {between : Part} (noColumn : between.isColumn = false)
    (items : List (List Part)) : columns (series between items) = items.flatMap columns := by
  induction items with
  | nil => rfl
  | cons item rest ih =>
    cases rest with
    | nil => simp [series]
    | cons next rest =>
      rw [series_cons_of_ne_nil (List.cons_ne_nil next rest), columns_append, List.flatMap_cons,
        ← ih, columns, columns, List.filter_cons_of_neg (by simp [noColumn])]
      rfl

namespace PredicateParts

private theorem columns_operand (operator : BooleanOperator) (predicate : PredicateParts) :
    columns (predicate.operand operator) = columns predicate.parts := by
  unfold operand
  split <;> simp [columns, Part.isColumn]

theorem columns_join (operator : BooleanOperator) (predicates : List PredicateParts) :
    columns (join operator predicates).parts =
      predicates.flatMap fun predicate => columns predicate.parts := by
  have kept : (predicates.flatMap fun predicate => columns predicate.parts) =
      (predicates.filter (!·.parts.isEmpty)).flatMap fun predicate => columns predicate.parts := by
    induction predicates with
    | nil => rfl
    | cons predicate rest ih =>
      cases empty : predicate.parts with
      | nil =>
        rw [List.flatMap_cons, empty, List.filter_cons_of_neg (by simp [empty]), ih]
        rfl
      | cons part others => simp [empty, ih]
  rw [kept]
  unfold join
  generalize predicates.filter (!·.parts.isEmpty) = kept
  match kept with
  | [] => rfl
  | [predicate] => simp
  | first :: second :: rest =>
    change columns (series (.joining operator)
      ((first :: second :: rest).map (operand operator))) = _
    rw [columns_series rfl, List.flatMap_map]
    exact List.flatMap_congr fun predicate _ => columns_operand operator predicate

end PredicateParts

/-! ## Columns of conditions -/

/-- The fields that formulas compare, in order. -/
def comparedFields (formulas : List (Formula (Comparison Value))) : List String :=
  (formulas.flatMap leaves).map fun comparison => rootField comparison.key

@[simp] theorem comparedFields_append (first second : List (Formula (Comparison Value))) :
    comparedFields (first ++ second) = comparedFields first ++ comparedFields second := by
  simp [comparedFields]

theorem comparedFields_joined? (operator : BooleanOperator)
    (formulas : List (Formula (Comparison Value))) :
    comparedFields (joined? operator formulas).toList = comparedFields formulas := by
  cases formulas <;> simp [comparedFields, joined?]

theorem comparedFields_leaf (comparison : Comparison Value) :
    comparedFields (some (.leaf comparison)).toList = [rootField comparison.key] := by
  simp [comparedFields]

private theorem mem_comparedFields_bounds {fields : Document} {field : String}
    (member : field ∈ comparedFields (boundFormulas key fields)) : field = rootField key := by
  obtain ⟨comparison, leaf, rfl⟩ := List.mem_map.mp member
  obtain ⟨formula, bound, inside⟩ := List.mem_flatMap.mp leaf
  obtain ⟨entry, -, named⟩ := List.mem_filterMap.mp bound
  obtain ⟨operator, -, rfl⟩ := Option.map_eq_some_iff.mp named
  rw [leaves_leaf, List.mem_singleton] at inside
  rw [inside]

section Compared

variable {field : String}

private theorem isKnown_of_mem_field {value : Value}
    (member : field ∈ comparedFields (fieldFormula? schema key value).toList) :
    (schema.fieldType? field).isSome = true := by
  cases typed : schema.fieldType? (rootField key) with
  | none =>
    rw [fieldFormula?_unknown typed] at member
    cases member
  | some type =>
    suffices field = rootField key by rw [this, typed]; rfl
    by_cases whole : (FieldPath.ofKey key).isPlain = true → type ≠ .json →
        value.asDocument? = none
    · rw [fieldFormula?_leaf value typed whole, comparedFields_leaf] at member
      exact List.mem_singleton.mp member
    · push Not at whole
      obtain ⟨plain, scalar, object⟩ := whole
      cases value with
      | object fields =>
        rw [fieldFormula?_object typed plain scalar, comparedFields_joined?] at member
        exact mem_comparedFields_bounds member
      | _ => exact absurd rfl object

mutual

theorem isKnown_of_mem_entry (key : String) (value : Value)
    (member : field ∈ comparedFields (entryFormula? schema key value).toList) :
    (schema.fieldType? field).isSome = true := by
  cases named : BooleanOperator.ofKey? key with
  | none =>
    rw [entryFormula?_field named] at member
    exact isKnown_of_mem_field member
  | some operator =>
    cases value with
    | array items =>
      rw [entryFormula?_operator named, comparedFields_joined?] at member
      exact isKnown_of_mem_members items member
    | _ => simp [entryFormula?, connective?_eq, named, comparedFields] at member

theorem isKnown_of_mem_members : (items : List Value) →
    field ∈ comparedFields (memberFormulas schema items) →
    (schema.fieldType? field).isSome = true
  | [], member => by cases member
  | item :: rest, member => by
    cases item with
    | object fields =>
      rw [memberFormulas, comparedFields_append, List.mem_append] at member
      rcases member with first | later
      · exact isKnown_of_mem_document fields first
      · exact isKnown_of_mem_members rest later
    | _ => exact isKnown_of_mem_members rest member

/-- What a condition compares are known fields. -/
theorem isKnown_of_mem_document : (document : List (String × Value)) →
    field ∈ comparedFields (documentFormulas schema document) →
    (schema.fieldType? field).isSome = true
  | [], member => by cases member
  | (key, value) :: rest, member => by
    rw [documentFormulas, comparedFields_append, List.mem_append] at member
    rcases member with first | later
    · exact isKnown_of_mem_entry key value first
    · exact isKnown_of_mem_document rest later

end

end Compared

section Parts

variable (owner? : String → Option String)

private theorem columns_pathParts (segments : List String) : columns (pathParts segments) = [] := by
  fun_induction pathParts segments with
  | case1 => rfl
  | case2 segment => rfl
  | case3 segment rest nonempty ih => exact ih

theorem columns_referenceParts (path : FieldPath) :
    columns (referenceParts owner? path) = [columnPart owner? path.root] :=
  congrArg (columnPart owner? path.root :: ·) (columns_pathParts path.segments)

/-- The columns of predicates that are joined. -/
def predicateColumns (predicates : List PredicateParts) : List Part :=
  predicates.flatMap fun predicate => columns predicate.parts

/-- The references of an entry are those of its comparisons. -/
theorem columns_field {value : Value} {condition : Option Condition}
    (classified : ClassifiedField schema policy key value condition) :
    predicateColumns (groupParts owner? condition.toList) =
      (comparedFields (fieldFormula? schema key value).toList).map (columnPart owner?) := by
  have root : (FieldPath.ofKey key).isPlain = true → rootField key = key :=
    FieldPath.root_of_isPlain
  cases classified with
  | dropped unknown _ =>
    rw [fieldFormula?_unknown unknown]
    rfl
  | path known dotted =>
    rw [fieldFormula?_leaf value known fun plain => by simp [dotted] at plain,
      comparedFields_leaf]
    change columns (referenceParts owner? _ ++ _) ++ [] = _
    rw [columns_append, columns_referenceParts]
    rfl
  | containment known plain =>
    rw [fieldFormula?_leaf value known fun _ scalar => absurd rfl scalar,
      comparedFields_leaf, root plain]
    rfl
  | @range type fields bounds known plain scalar ranged =>
    rw [fieldFormula?_object known plain scalar, comparedFields_joined?,
      boundFormulas_of_rangeBounds ranged]
    have compared : comparedFields (bounds.map fun bound =>
        .leaf ⟨key, .bound bound.1, bound.2⟩) = bounds.map fun _ => key := by
      rw [comparedFields, List.flatMap_map, List.map_flatMap, List.map_eq_flatMap]
      simp [root plain]
    change columns (PredicateParts.join .and (bounds.map _)).parts ++ [] = _
    rw [List.append_nil, PredicateParts.columns_join, List.flatMap_map, compared, List.map_map,
      List.map_eq_flatMap]
    rfl
  | equality known plain scalar other =>
    rw [fieldFormula?_leaf value known fun _ _ => other, comparedFields_leaf, root plain]
    rfl

mutual

theorem columns_entry (key : String) (value : Value) {condition : Option Condition}
    (classified : classifyEntry schema policy key value = .ok condition) :
    predicateColumns (groupParts owner? condition.toList) =
      (comparedFields (entryFormula? schema key value).toList).map (columnPart owner?) := by
  cases named : BooleanOperator.ofKey? key with
  | none =>
    rw [classifyEntry_field named] at classified
    rw [entryFormula?_field named]
    exact columns_field owner? (classifiedField classified)
  | some operator =>
    obtain ⟨items, groups, rfl, members, rfl⟩ := classifyEntry_operator named classified
    rw [entryFormula?_operator named, comparedFields_joined?, ← columns_members items members]
    change columns (PredicateParts.join operator (groupsParts owner? groups)).parts ++ [] = _
    rw [List.append_nil, PredicateParts.columns_join]
    rfl

theorem columns_members {operator : BooleanOperator} : (items : List Value) →
    {groups : List (List Condition)} → classifyGroups schema policy operator items = .ok groups →
    predicateColumns (groupsParts owner? groups) =
      (comparedFields (memberFormulas schema items)).map (columnPart owner?)
  | [], _, classified => by
    cases classified
    rfl
  | item :: rest, _, classified => by
    obtain ⟨fields, group, others, rfl, first, later, rfl⟩ := classifyGroups_cons classified
    rw [memberFormulas, comparedFields_append, List.map_append, ← columns_document fields first,
      ← columns_members rest later, groupsParts, predicateColumns, List.flatMap_append]
    rfl

theorem columns_document : (document : List (String × Value)) →
    {conditions : List Condition} → classify schema policy document = .ok conditions →
    predicateColumns (groupParts owner? conditions) =
      (comparedFields (documentFormulas schema document)).map (columnPart owner?)
  | [], _, classified => by
    cases classified
    rfl
  | (key, value) :: rest, _, classified => by
    obtain ⟨condition, others, first, later, rfl⟩ := classify_cons classified
    rw [documentFormulas, comparedFields_append, List.map_append, ← columns_entry key value first,
      ← columns_document rest later, groupParts_append, predicateColumns, List.flatMap_append]
    rfl

end

end Parts

/-! ## Columns of clauses -/

section Clauses

variable (owner? : String → Option String)

private theorem columns_whereParts (conditions : List Condition) :
    columns (whereParts owner? conditions) = predicateColumns (groupParts owner? conditions) := by
  rw [predicateColumns, ← PredicateParts.columns_join .and]
  unfold whereParts
  cases (PredicateParts.join .and (groupParts owner? conditions)).parts <;> rfl

/-- The fields that the condition of a query compares, in order. -/
def conditionFields (schema : Schema) (query : Query) : List String :=
  comparedFields (documentFormulas schema (query.snakeCased.condition.getD []))

theorem columns_conditions {query : Query} {conditions : List Condition}
    (compiled : queryConditions schema policy query = .ok conditions) :
    columns (whereParts owner? conditions) =
      (conditionFields schema query).map (columnPart owner?) := by
  unfold queryConditions at compiled
  unfold conditionFields
  rw [columns_whereParts]
  cases asked : query.snakeCased.condition with
  | none =>
    rw [asked] at compiled
    cases compiled
    rfl
  | some document =>
    rw [asked] at compiled
    exact columns_document owner? document compiled

/-- The known fields that a query is ordered by. -/
def orderFields (schema : Schema) (query : Query) : List String :=
  ((query.snakeCased.order.getD []).filter (isKnownEntry schema)).map fun entry =>
    rootField entry.field

theorem columns_order {query : Query} {order : List OrderEntry}
    (compiled : queryOrder schema policy query = .ok order) :
    columns (orderParts owner? order) = (orderFields schema query).map (columnPart owner?) := by
  have item (entry : OrderEntry) :
      columns (orderItemParts owner? entry) = [columnPart owner? (rootField entry.field)] := by
    rw [orderItemParts, columns_append, columns_referenceParts]
    rfl
  rw [orderFields, ← eq_filter_of_knownOrder compiled, List.map_map, List.map_eq_flatMap]
  unfold orderParts
  split
  · rename_i empty
    rw [empty]
    rfl
  · change columns (series .comma (order.map (orderItemParts owner?))) = _
    rw [columns_series rfl, List.flatMap_map]
    exact List.flatMap_congr fun entry _ => item entry

end Clauses

private theorem columns_foldl_attributeParts (updates : List AttributeUpdate)
    (expression : List Part) :
    columns (updates.foldl attributeParts expression) = columns expression := by
  induction updates generalizing expression with
  | nil => rfl
  | cons update rest ih =>
    rw [List.foldl_cons, ih, attributeParts, columns_append, columns_append]
    simp [columns, Part.isColumn]

/-- The column of an assignment, which stands in its own new value if parts of it are replaced. -/
def Assignment.columns : Assignment → List String
  | .plain column _ _ => [column]
  | .attributes column _ => [column, column]

private theorem columns_assignmentParts (assignment : Assignment) :
    columns (assignmentParts assignment) = assignment.columns.map .written := by
  cases assignment with
  | plain column type value => rfl
  | attributes column updates =>
    rw [assignmentParts, columns_append, columns_foldl_attributeParts]
    rfl

theorem columns_assignmentsParts (assignments : List Assignment) :
    columns (assignmentsParts assignments) =
      (assignments.flatMap Assignment.columns).map .written := by
  rw [assignmentsParts, columns_series rfl, List.flatMap_map, List.map_flatMap]
  exact List.flatMap_congr fun assignment _ => columns_assignmentParts assignment

end UniversalQuery.Sql
