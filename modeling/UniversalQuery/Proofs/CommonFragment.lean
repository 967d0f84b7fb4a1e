import Mathlib.Data.List.Nodup
import UniversalQuery.Proofs.DocumentStore.FilterReader
import UniversalQuery.Proofs.Sql.PredicateMeaning

set_option autoImplicit false

/-! Conditions that mean the same to both targets. The predicate joins the entries of all members of
an operand and the filter keeps the members apart, which makes no difference if every member of an
`or` has one entry and nothing is left out. -/

namespace UniversalQuery

open Formula

/-! ## The fragment -/

/-- Whether a key is apart from the keys that filters add. -/
def isPlainKey (key : String) : Bool :=
  key.toList.head? != some '$'

/-- Whether both targets understand an entry on a field. -/
def isCommonField (schema : Schema) (key : String) (value : Value) : Bool :=
  if (FieldPath.ofKey key).isPlain then
    (schema.fieldType? key).any (· != .json) && value.asDocument?.all fun fields => !fields.isEmpty
  else value.asDocument?.isNone

/-- How many entries a member of an operand may have. -/
def isCommonSize (operator : BooleanOperator) (fields : Document) : Bool :=
  match operator with
  | .and => !fields.isEmpty
  | .or => fields.length == 1

mutual

def isCommonEntry (schema : Schema) (key : String) : Value → Bool
  | .array items =>
    match BooleanOperator.ofKey? key with
    | some operator => !items.isEmpty && areCommonMembers schema operator items
    | none => isCommonField schema key (.array items)
  | value => (BooleanOperator.ofKey? key).isNone && isCommonField schema key value

def areCommonMembers (schema : Schema) (operator : BooleanOperator) : List Value → Bool
  | [] => true
  | .object fields :: rest =>
    isCommonSize operator fields && areCommonEntries schema fields &&
      areCommonMembers schema operator rest
  | _ :: _ => false

def areCommonEntries (schema : Schema) : List (String × Value) → Bool
  | [] => true
  | (key, value) :: rest =>
    isPlainKey key && isCommonEntry schema key value && areCommonEntries schema rest

end

namespace CommonFragment

open Sql DocumentStore

variable {schema : Schema}

/-! ## Filters of formulas -/

abbrev inFilter (formula : Formula (Comparison Value)) : Formula (Comparison Json) :=
  formula.map (Comparison.map Value.toJson)

/-- The filter of an entry is read as a formula, up to how operands are grouped. -/
def EntryMeans (key : String) (value : Value) (formula : Formula (Comparison Value)) : Prop :=
  ∃ json part, filterEntry key value = .ok (filterKey key, json) ∧
    readMember? (filterKey key) json = some (inFilter part) ∧ Agrees part formula

/-- The filters of the entries of a document are read as formulas, one for each. -/
def EntriesMean (fields : Document) (formulas : List (Formula (Comparison Value))) : Prop :=
  ∃ entries parts, filterEntries fields = .ok entries ∧
    Entries.names entries = (Entries.names fields).map filterKey ∧
    readEntries? entries = some (parts.map inFilter) ∧ List.Forall₂ Agrees parts formulas

/-- The filters of the members of an operand are read as what joins the formulas. -/
def MembersMean (operator : BooleanOperator) (items : List Value)
    (formulas : List (Formula (Comparison Value))) : Prop :=
  ∃ filters parts, filterItems operator items = .ok filters ∧
    readDocuments? filters = some (parts.map inFilter) ∧
    Agrees (.join operator parts) (.join operator formulas)

/-! ## Fields -/

private theorem operand_scalar {value : Value} (scalar : value.asDocument? = none) :
    operand value = value.toJson := by
  cases value with
  | object fields => cases scalar
  | _ => rfl

/-- A value that is no object is looked for. An instant is an object, but not one of bounds. -/
theorem readField_scalar (key : String) {value : Value} (scalar : value.asDocument? = none) :
    readField key value.toJson = .leaf ⟨key, .equal, value.toJson⟩ := by
  cases value with
  | object fields => cases scalar
  | float number =>
    unfold Value.toJson Value.floatToJson
    split <;> rfl
  | date instant =>
    have noBound : comparisonOperator? Value.dateKey = none := by decide
    simp [Value.toJson, readField, readBounds?, noBound]
  | _ => rfl

private theorem entryMeans_scalar {key : String} {value : Value}
    (isField : BooleanOperator.ofKey? key = none) (plain : key.toList.head? ≠ some '$')
    (scalar : value.asDocument? = none) :
    EntryMeans key value (.leaf ⟨key, .equal, value⟩) := by
  refine ⟨value.toJson, .leaf ⟨key, .equal, value⟩, ?_, ?_, .refl _⟩
  · rw [filterEntry_field isField, filterKey_field isField, operand_scalar scalar]
  · rw [filterKey_field isField, readMember?_field plain, readField_scalar key scalar]
    simp [inFilter, Comparison.map]

private theorem isRange_of_rangeBounds {key : String} {fields : Document}
    {bounds : List (ComparisonOperator × Value)} (ranged : rangeBounds key fields = .ok bounds)
    (nonempty : fields ≠ []) : isRange fields = true := by
  have operators : fields.all (fun field => (ComparisonOperator.ofKey? field.1).isSome) = true := by
    have matched := forall₂_of_rangeBounds ranged
    clear ranged nonempty
    induction matched with
    | nil => rfl
    | cons head _ ih => simp [head.1, ih]
  simp [isRange, operators, nonempty]

private theorem readBounds?_of_rangeBounds {key : String} {fields : Document}
    {bounds : List (ComparisonOperator × Value)} (ranged : rangeBounds key fields = .ok bounds) :
    readBounds? key (fields.map fun field => (operatorKey field.1, field.2.toJson)) =
      some (bounds.map fun bound => .leaf ⟨key, .bound bound.1, bound.2.toJson⟩) := by
  have matched := forall₂_of_rangeBounds ranged
  clear ranged
  induction matched with
  | nil => rfl
  | cons head _ ih =>
    obtain ⟨named, same⟩ := head
    simp [readBounds?, comparisonOperator?_operatorKey, named, same, ih]

private theorem entryMeans_range {key : String} {fields : Document}
    {bounds : List (ComparisonOperator × Value)} (isField : BooleanOperator.ofKey? key = none)
    (plain : key.toList.head? ≠ some '$') (ranged : rangeBounds key fields = .ok bounds)
    (nonempty : fields ≠ []) :
    EntryMeans key (.object fields)
      (.join .and (bounds.map fun bound => .leaf ⟨key, .bound bound.1, bound.2⟩)) := by
  have read := readBounds?_of_rangeBounds ranged
  refine ⟨.object (fields.map fun field => (operatorKey field.1, field.2.toJson)), _, ?_, ?_,
    .refl _⟩
  · rw [filterEntry_field isField, filterKey_field isField]
    simp [operand, isRange_of_rangeBounds ranged nonempty]
  · rw [filterKey_field isField, readMember?_field plain]
    cases fields with
    | nil => exact absurd rfl nonempty
    | cons field rest =>
      rw [List.map_cons] at read ⊢
      rw [readField, read]
      simp [inFilter, Comparison.map, Function.comp_def]

private theorem entryMeans_field {key : String} {value : Value} {condition : Option Condition}
    (isField : BooleanOperator.ofKey? key = none) (plain : key.toList.head? ≠ some '$')
    (common : isCommonField schema key value = true)
    (classified : ClassifiedField schema .reject key value condition) :
    ∃ formula, fieldFormula? schema key value = some formula ∧ EntryMeans key value formula := by
  unfold isCommonField at common
  cases classified with
  | dropped _ drops => cases drops
  | path known dotted =>
    have scalar : value.asDocument? = none := by simpa [dotted] using common
    refine ⟨_, fieldFormula?_leaf value known fun _ _ => scalar, ?_⟩
    exact entryMeans_scalar isField plain scalar
  | containment known whole =>
    rw [rootField, FieldPath.root_of_isPlain whole] at known
    simp [whole, known] at common
  | @range type fields bounds known whole scalar ranged =>
    have nonempty : fields ≠ [] := by
      rintro rfl
      simp [whole, Value.asDocument?] at common
    have bounded : bounds ≠ [] := by
      rintro rfl
      cases forall₂_of_rangeBounds ranged
      exact nonempty rfl
    refine ⟨_, ?_, entryMeans_range isField plain ranged nonempty⟩
    rw [fieldFormula?_object known whole scalar, boundFormulas_of_rangeBounds ranged]
    exact joined?_of_ne_nil .and (by simpa using bounded)
  | equality known whole json scalar =>
    refine ⟨_, fieldFormula?_leaf value known fun _ _ => scalar, ?_⟩
    exact entryMeans_scalar isField plain scalar

/-! ## Members -/

theorem isPlainKey_iff {key : String} : isPlainKey key = true ↔ key.toList.head? ≠ some '$' := by
  simp [isPlainKey]

private theorem ne_nil_of_isCommonSize {operator : BooleanOperator} {fields : Document}
    (size : isCommonSize operator fields = true) : fields ≠ [] := by
  rintro rfl
  cases operator <;> cases size

/-- A member stands for its entries: all of them have to hold under `and`, and there is only one
under `or`. -/
theorem agrees_member {operator : BooleanOperator} {fields : Document}
    {parts formulas : List (Formula (Comparison Value))}
    (size : isCommonSize operator fields = true) (counted : formulas.length = fields.length)
    (agree : List.Forall₂ Agrees parts formulas) :
    Agrees (.join .and parts) (.join operator formulas) := by
  have joined := Agrees.join_congr .and agree
  cases operator with
  | and => exact joined
  | or =>
    have single : formulas.length = 1 := by
      rw [counted]
      simpa [isCommonSize] using size
    obtain ⟨formula, rfl⟩ := List.length_eq_one_iff.mp single
    exact joined.trans ((Agrees.join_singleton .and formula).trans
      (Agrees.join_singleton .or formula).symm)

private theorem membersMean_nil (operator : BooleanOperator) : MembersMean operator [] [] :=
  ⟨[], [], rfl, rfl, .refl _⟩

private theorem membersMean_cons {operator : BooleanOperator} {fields : Document}
    {rest : List Value} {formulas others : List (Formula (Comparison Value))}
    (size : isCommonSize operator fields = true) (counted : formulas.length = fields.length)
    (distinct : ((Entries.names fields).map filterKey).Nodup) (member : EntriesMean fields formulas)
    (members : MembersMean operator rest others) :
    MembersMean operator (.object fields :: rest) (formulas ++ others) := by
  obtain ⟨entries, parts, filtered, names, read, agree⟩ := member
  obtain ⟨filters, tail, remaining, readRest, agreeRest⟩ := members
  -- The keys of a filter stay distinct, so making it a map changes nothing.
  have kept : Entries.ofPairs entries = entries := Entries.ofPairs_of_nodup (names ▸ distinct)
  refine ⟨.object entries :: filters, .join .and parts :: tail, ?_, ?_, ?_⟩
  · rw [filterItems, filtered, remaining]
    change Except.ok (Json.object (Entries.ofPairs entries) :: filters) = _
    rw [kept]
  · rw [readDocuments?, read, readRest]
    simp [inFilter]
  · have head := agrees_member size counted agree
    exact (Agrees.join_cons operator _ tail).symm.trans
      ((Agrees.join_pair operator head agreeRest).trans
        (Agrees.join_append operator formulas others))

private theorem entryMeans_operator {key : String} {operator : BooleanOperator} {items : List Value}
    {formulas : List (Formula (Comparison Value))}
    (named : BooleanOperator.ofKey? key = some operator)
    (members : MembersMean operator items formulas) :
    EntryMeans key (.array items) (.join operator formulas) := by
  obtain ⟨filters, parts, filtered, read, agree⟩ := members
  refine ⟨.array filters, .join operator parts, ?_, ?_, agree⟩
  · rw [filterEntry_operator named filtered, filterKey_operator named]
  · rw [filterKey_operator named, readMember?, booleanOperator?_operatorKey]
    simp [read, inFilter]

theorem isPlainKey_of_areCommonEntries {fields : Document}
    (common : areCommonEntries schema fields = true) :
    ∀ key ∈ Entries.names fields, key.toList.head? ≠ some '$' := by
  induction fields with
  | nil => simp [Entries.names]
  | cons field rest ih =>
    obtain ⟨key, value⟩ := field
    simp only [areCommonEntries, Bool.and_eq_true] at common
    intro other member
    rcases List.mem_cons.mp member with rfl | later
    · exact isPlainKey_iff.mp common.1.1
    · exact ih common.2 other later

private theorem entriesMean_cons {key : String} {value : Value} {rest : Document}
    {formula : Formula (Comparison Value)} {formulas : List (Formula (Comparison Value))}
    (entry : EntryMeans key value formula) (entries : EntriesMean rest formulas) :
    EntriesMean ((key, value) :: rest) (formula :: formulas) := by
  obtain ⟨json, part, filtered, read, agree⟩ := entry
  obtain ⟨others, parts, remaining, names, readRest, agreeRest⟩ := entries
  refine ⟨(filterKey key, json) :: others, part :: parts, ?_, ?_, ?_, .cons agree agreeRest⟩
  · rw [filterEntries, filtered, remaining]
    rfl
  · simp only [Entries.names, List.map_cons] at names ⊢
    rw [names]
  · rw [readEntries?, read, readRest]
    rfl

/-! ## Documents -/

mutual

theorem entryMeans (key : String) (plain : key.toList.head? ≠ some '$') :
    (value : Value) → {condition : Option Condition} → value.hasDistinctKeys = true →
    isCommonEntry schema key value = true →
    classifyEntry schema .reject key value = .ok condition →
    ∃ formula, entryFormula? schema key value = some formula ∧ EntryMeans key value formula
  | value, condition, distinct, common, classified => by
    cases named : BooleanOperator.ofKey? key with
    | none =>
      rw [classifyEntry_field named] at classified
      rw [entryFormula?_field named]
      have field : isCommonField schema key value = true := by
        cases value <;> simpa [isCommonEntry, named] using common
      exact entryMeans_field named plain field (classifiedField classified)
    | some operator =>
      obtain ⟨items, groups, rfl, classifiedItems, rfl⟩ := classifyEntry_operator named classified
      simp only [isCommonEntry, named, Bool.and_eq_true, Bool.not_eq_true',
        List.isEmpty_eq_false_iff] at common
      obtain ⟨members, nonempty⟩ := membersMean items distinct common.2 classifiedItems
      rw [entryFormula?_operator named]
      exact ⟨_, joined?_of_ne_nil operator (nonempty common.1), entryMeans_operator named members⟩

theorem membersMean {operator : BooleanOperator} :
    (items : List Value) → {groups : List (List Condition)} → distinctItems items = true →
    areCommonMembers schema operator items = true →
    classifyGroups schema .reject operator items = .ok groups →
    MembersMean operator items (memberFormulas schema items) ∧
      (items ≠ [] → memberFormulas schema items ≠ [])
  | [], _, _, _, _ => ⟨membersMean_nil operator, absurd rfl⟩
  | item :: rest, _, distinct, common, classified => by
    obtain ⟨fields, group, groups, rfl, first, others, -⟩ := classifyGroups_cons classified
    simp only [areCommonMembers, Bool.and_eq_true] at common
    simp only [distinctItems, Value.hasDistinctKeys, Bool.and_eq_true, decide_eq_true_eq]
      at distinct
    obtain ⟨⟨size, understood⟩, remaining⟩ := common
    obtain ⟨⟨names, values⟩, later⟩ := distinct
    obtain ⟨member, counted⟩ := entriesMean fields values understood first
    obtain ⟨members, _⟩ := membersMean rest later remaining others
    have keys := nodup_filterKeys names (isPlainKey_of_areCommonEntries understood)
    refine ⟨membersMean_cons size counted keys member members, fun _ empty => ?_⟩
    -- No entry of a member is left out, so its formulas are as many as its entries.
    have nothing := (List.append_eq_nil_iff.mp empty).1
    rw [nothing, List.length_nil] at counted
    exact ne_nil_of_isCommonSize size (List.length_eq_zero_iff.mp counted.symm)

/-- Entries that both targets understand mean the same to both, and each of them means something. -/
theorem entriesMean :
    (fields : List (String × Value)) → {conditions : List Condition} →
    distinctFields fields = true → areCommonEntries schema fields = true →
    classify schema .reject fields = .ok conditions →
    EntriesMean fields (documentFormulas schema fields) ∧
      (documentFormulas schema fields).length = fields.length
  | [], _, _, _, _ => ⟨⟨[], [], rfl, rfl, rfl, .nil⟩, rfl⟩
  | (key, value) :: rest, _, distinct, common, classified => by
    obtain ⟨condition, conditions, first, others, -⟩ := classify_cons classified
    simp only [areCommonEntries, Bool.and_eq_true, isPlainKey_iff] at common
    simp only [distinctFields, Bool.and_eq_true] at distinct
    obtain ⟨formula, asked, entry⟩ :=
      entryMeans key common.1.1 value distinct.1 common.1.2 first
    obtain ⟨entries, counted⟩ := entriesMean rest distinct.2 common.2 others
    simp only [documentFormulas, asked, Option.toList_some, List.singleton_append,
      List.length_cons, counted, and_true]
    exact entriesMean_cons entry entries

end

end CommonFragment

open Sql DocumentStore CommonFragment

/-- Both targets give the same meaning to a condition that both understand: the predicate and the
filter are read as formulas with the same comparisons in the same order, and with the same value
whatever holds. -/
theorem predicate_means_filter {schema : Schema} (plain : schema.PlainNames)
    {document : Document} {text : String}
    (compiled : predicateText schema .reject document = .ok text)
    (distinct : (Value.object document).hasDistinctKeys = true)
    (common : areCommonEntries schema document = true) :
    ∃ (filter : Entries Json) (relational documental : Formula (Comparison Value)),
      DocumentStore.filter document = .ok filter ∧
      readPredicate? text = some (relational.map (comparisonText schema)) ∧
      readFilter? filter = some (documental.map (Comparison.map Value.toJson)) ∧
      relational.leaves = documental.leaves ∧
      ∀ truth, relational.eval truth = documental.eval truth := by
  obtain ⟨conditions, classified, _⟩ := exists_of_map_eq_ok compiled
  rw [Value.hasDistinctKeys, Bool.and_eq_true, decide_eq_true_eq] at distinct
  obtain ⟨names, values⟩ := distinct
  obtain ⟨⟨entries, parts, filtered, keys, read, agree⟩, -⟩ :=
    entriesMean document values common classified
  obtain ⟨relational, readText, meaning⟩ := reads_predicateText plain compiled
  have kept : Entries.ofPairs entries = entries := by
    refine Entries.ofPairs_of_nodup (keys ▸ nodup_filterKeys names ?_)
    exact isPlainKey_of_areCommonEntries common
  have same := meaning.trans (Agrees.join_congr .and agree).symm
  refine ⟨entries, relational, .join .and parts, ?_, readText, ?_, same.leaves, same.eval⟩
  · rw [DocumentStore.filter, filtered, Except.map, kept]
  · rw [readFilter?, read]
    simp

/-- Operators in operators, a range and a path. -/
def clerks : Document :=
  [("or", .array [
      .object [("name", .string "Jon")],
      .object [("and", .array [
        .object [("age", .object [("gte", .int 18), ("lt", .int 65)]), ("name", .string "Ann")],
        .object [("or", .array [.object [("job.title", .string "clerk")]])]])]]),
    ("age", .int 20)]

theorem predicate_means_filter_clerks :
    ∃ (filter : Entries Json) (relational documental : Formula (Comparison Value)),
      DocumentStore.filter clerks = .ok filter ∧
      readPredicate? ("(name='Jon' OR age >= 18 AND age < 65 AND name='Ann' " ++
        "AND job->>'title'='clerk') AND age=20") =
          some (relational.map (comparisonText people.schema)) ∧
      readFilter? filter = some (documental.map (Comparison.map Value.toJson)) ∧
      relational.leaves = documental.leaves ∧
      ∀ truth, relational.eval truth = documental.eval truth := by
  have compiled : predicateText people.schema .reject clerks =
      .ok ("(name='Jon' OR age >= 18 AND age < 65 AND name='Ann' " ++
        "AND job->>'title'='clerk') AND age=20") := by decide +kernel
  exact predicate_means_filter (Model.schema_plainNames (by decide)) compiled (by decide +kernel)
    (by decide +kernel)

end UniversalQuery
