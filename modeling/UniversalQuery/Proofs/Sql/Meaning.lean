import UniversalQuery.Proofs.Formula
import UniversalQuery.Proofs.Outcomes
import UniversalQuery.Sql.Predicate

set_option autoImplicit false

/-! The meaning of condition documents, and what each entry is classified as. The entries of a
document are conjoined; a boolean entry joins all the entries of all its members. What asks for
nothing has no meaning and is left out. -/

namespace UniversalQuery

namespace Sql

open Formula

/-! ## Meaning -/

/-- The keys that join conditions. -/
def connective? : String → Option BooleanOperator
  | "and" => some .and
  | "or" => some .or
  | _ => none

/-- The keys that bound a field. -/
def boundOperator? : String → Option ComparisonOperator
  | "gt" => some .gt
  | "gte" => some .gte
  | "lt" => some .lt
  | "lte" => some .lte
  | _ => none

def boundFormulas (key : String) (fields : Document) : List (Formula (Comparison Value)) :=
  fields.filterMap fun field =>
    (boundOperator? field.1).map fun operator => .leaf ⟨key, .bound operator, field.2⟩

/-- The meaning of an entry on a field. Objects are ranges on columns that hold no objects. -/
def fieldFormula? (schema : Schema) (key : String) (value : Value) :
    Option (Formula (Comparison Value)) :=
  match schema.fieldType? (rootField key), value with
  | none, _ => none
  | some type, .object fields =>
    if (FieldPath.ofKey key).isPlain ∧ type ≠ .json then joined? .and (boundFormulas key fields)
    else some (.leaf ⟨key, .equal, .object fields⟩)
  | some _, value => some (.leaf ⟨key, .equal, value⟩)

mutual

def entryFormula? (schema : Schema) (key : String) : Value → Option (Formula (Comparison Value))
  | .array items =>
    match connective? key with
    | some operator => joined? operator (memberFormulas schema items)
    | none => fieldFormula? schema key (.array items)
  | value =>
    match connective? key with
    | some _ => none
    | none => fieldFormula? schema key value

def memberFormulas (schema : Schema) : List Value → List (Formula (Comparison Value))
  | [] => []
  | .object fields :: rest => documentFormulas schema fields ++ memberFormulas schema rest
  | _ :: rest => memberFormulas schema rest

def documentFormulas (schema : Schema) :
    List (String × Value) → List (Formula (Comparison Value))
  | [] => []
  | (key, value) :: rest => (entryFormula? schema key value).toList ++ documentFormulas schema rest

end

/-- The meaning of a document. There is none if it asks for nothing. -/
def documentMeaning? (schema : Schema) (document : Document) :
    Option (Formula (Comparison Value)) :=
  joined? .and (documentFormulas schema document)

/-- The sign between a column and its bound. -/
def boundSign : ComparisonOperator → String
  | .gt => " > "
  | .gte => " >= "
  | .lt => " < "
  | .lte => " <= "

/-- The text of a comparison on a known field. -/
def comparisonText (schema : Schema) (comparison : Comparison Value) : String :=
  let path := FieldPath.ofKey comparison.key
  let column := columnReference schema path.root
  match schema.fieldType? path.root, comparison.relation with
  | none, _ => ""
  | some type, .bound operator => column ++ boundSign operator ++ literal type comparison.value
  | some type, .equal =>
    if !path.isPlain then reference schema path ++ "=" ++ quote (textOf comparison.value)
    else if type = .json then column ++ "::jsonb @> " ++ jsonLiteral comparison.value ++ "::jsonb"
    else column ++ "=" ++ literal type comparison.value

/-! ## Keys of fields and of operators -/

variable {schema : Schema} {policy : UnknownFields} {key : String}

theorem connective?_eq (key : String) : connective? key = BooleanOperator.ofKey? key := by
  cases named : BooleanOperator.ofKey? key with
  | some operator =>
    rw [← BooleanOperator.key_of_ofKey? named]
    cases operator <;> rfl
  | none =>
    have apart := BooleanOperator.ofKey?_eq_none_iff.mp named
    unfold connective?
    split
    · exact absurd rfl (apart .and)
    · exact absurd rfl (apart .or)
    · rfl

theorem boundOperator?_eq (key : String) : boundOperator? key = ComparisonOperator.ofKey? key := by
  cases named : ComparisonOperator.ofKey? key with
  | some operator =>
    rw [← ComparisonOperator.key_of_ofKey? named]
    cases operator <;> rfl
  | none =>
    have apart := ComparisonOperator.ofKey?_eq_none_iff.mp named
    unfold boundOperator?
    split
    · exact absurd rfl (apart .gt)
    · exact absurd rfl (apart .gte)
    · exact absurd rfl (apart .lt)
    · exact absurd rfl (apart .lte)
    · rfl

theorem entryFormula?_field (isField : BooleanOperator.ofKey? key = none) (value : Value) :
    entryFormula? schema key value = fieldFormula? schema key value := by
  cases value <;> simp [entryFormula?, connective?_eq, isField]

theorem entryFormula?_operator {operator : BooleanOperator}
    (named : BooleanOperator.ofKey? key = some operator) (items : List Value) :
    entryFormula? schema key (.array items) = joined? operator (memberFormulas schema items) := by
  simp [entryFormula?, connective?_eq, named]

theorem classifyEntry_field (isField : BooleanOperator.ofKey? key = none) (value : Value) :
    classifyEntry schema policy key value = classifyField schema policy key value := by
  cases value <;> simp [classifyEntry, isField]

/-- Only lists of objects are accepted as operands. -/
theorem classifyEntry_operator {operator : BooleanOperator} {value : Value}
    {condition : Option Condition} (named : BooleanOperator.ofKey? key = some operator)
    (classified : classifyEntry schema policy key value = .ok condition) :
    ∃ items groups, value = .array items ∧
      classifyGroups schema policy operator items = .ok groups ∧
      condition = some (.boolean operator groups) := by
  cases value with
  | array items =>
    rw [classifyEntry, named] at classified
    obtain ⟨groups, members, same⟩ := exists_of_bind_eq_ok classified
    cases same
    exact ⟨items, groups, rfl, members, rfl⟩
  | _ =>
    rw [classifyEntry, named] at classified
    · cases classified
    · exact fun _ => Value.noConfusion

/-! ## Classification -/

/-- The members of an operand are objects, and each is a group. -/
theorem classifyGroups_cons {operator : BooleanOperator} {item : Value} {rest : List Value}
    {groups : List (List Condition)}
    (classified : classifyGroups schema policy operator (item :: rest) = .ok groups) :
    ∃ fields group others, item = .object fields ∧
      classify schema policy fields = .ok group ∧
      classifyGroups schema policy operator rest = .ok others ∧ groups = group :: others := by
  cases item with
  | object fields =>
    rw [classifyGroups] at classified
    obtain ⟨group, first, tail⟩ := exists_of_bind_eq_ok classified
    obtain ⟨others, later, same⟩ := exists_of_bind_eq_ok tail
    cases same
    exact ⟨fields, group, others, rfl, first, later, rfl⟩
  | _ =>
    rw [classifyGroups] at classified
    · cases classified
    · exact fun _ => Value.noConfusion

theorem classify_cons {value : Value} {rest : Document} {conditions : List Condition}
    (classified : classify schema policy ((key, value) :: rest) = .ok conditions) :
    ∃ condition others, classifyEntry schema policy key value = .ok condition ∧
      classify schema policy rest = .ok others ∧ conditions = condition.toList ++ others := by
  rw [classify] at classified
  obtain ⟨condition, first, tail⟩ := exists_of_bind_eq_ok classified
  obtain ⟨others, later, same⟩ := exists_of_bind_eq_ok tail
  cases same
  exact ⟨condition, others, first, later, rfl⟩

/-- What an entry on a field can be classified as. -/
inductive ClassifiedField (schema : Schema) (policy : UnknownFields) (key : String) :
    Value → Option Condition → Prop where
  | dropped {value : Value} :
      schema.fieldType? (rootField key) = none → policy = .drop →
      ClassifiedField schema policy key value none
  | path {value : Value} {type : FieldType} :
      schema.fieldType? (rootField key) = some type → (FieldPath.ofKey key).isPlain = false →
      ClassifiedField schema policy key value (some (.jsonPath (FieldPath.ofKey key) value))
  | containment {value : Value} :
      schema.fieldType? (rootField key) = some .json → (FieldPath.ofKey key).isPlain = true →
      ClassifiedField schema policy key value (some (.containment key value))
  | range {type : FieldType} {fields : Document} {bounds : List (ComparisonOperator × Value)} :
      schema.fieldType? (rootField key) = some type → (FieldPath.ofKey key).isPlain = true →
      type ≠ .json → rangeBounds key fields = .ok bounds →
      ClassifiedField schema policy key (.object fields) (some (.range key type bounds))
  | equality {value : Value} {type : FieldType} :
      schema.fieldType? (rootField key) = some type → (FieldPath.ofKey key).isPlain = true →
      type ≠ .json → value.asDocument? = none →
      ClassifiedField schema policy key value (some (.equality key type value))

theorem classifiedField {value : Value} {condition : Option Condition}
    (classified : classifyField schema policy key value = .ok condition) :
    ClassifiedField schema policy key value condition := by
  unfold classifyField at classified
  dsimp only at classified
  split at classified
  · rename_i unknown
    cases policy with
    | reject => cases classified
    | drop =>
      cases classified
      exact .dropped unknown rfl
  · rename_i type known
    split at classified
    · rename_i dotted
      cases classified
      exact .path known (by simpa using dotted)
    · rename_i plain
      replace plain : (FieldPath.ofKey key).isPlain = true := by simpa using plain
      split at classified
      · rename_i json
        cases classified
        exact .containment (json ▸ known) plain
      · rename_i scalar
        split at classified
        · obtain ⟨bounds, ranged, same⟩ := exists_of_bind_eq_ok classified
          cases same
          exact .range known plain scalar ranged
        · rename_i other
          cases classified
          refine .equality known plain scalar ?_
          unfold Value.asDocument?
          split
          · exact absurd rfl (other _)
          · rfl

/-- The bounds of a range are its fields, one for each and in order. -/
theorem forall₂_of_rangeBounds {fields : Document} {bounds : List (ComparisonOperator × Value)}
    (ranged : rangeBounds key fields = .ok bounds) :
    List.Forall₂ (fun field bound =>
      ComparisonOperator.ofKey? field.1 = some bound.1 ∧ bound.2 = field.2) fields bounds := by
  induction fields generalizing bounds with
  | nil =>
    cases ranged
    exact .nil
  | cons field rest ih =>
    obtain ⟨name, bound⟩ := field
    unfold rangeBounds at ranged
    split at ranged
    · cases ranged
    · rename_i operator named
      obtain ⟨others, tail, same⟩ := exists_of_bind_eq_ok ranged
      cases same
      exact .cons ⟨named, rfl⟩ (ih tail)

theorem boundFormulas_of_rangeBounds {fields : Document}
    {bounds : List (ComparisonOperator × Value)} (ranged : rangeBounds key fields = .ok bounds) :
    boundFormulas key fields = bounds.map fun bound => .leaf ⟨key, .bound bound.1, bound.2⟩ := by
  have matched := forall₂_of_rangeBounds ranged
  clear ranged
  induction matched with
  | nil => rfl
  | @cons field bound _ _ head _ ih =>
    obtain ⟨named, same⟩ := head
    rw [← boundOperator?_eq] at named
    unfold boundFormulas at ih ⊢
    simp [named, same, ih]

theorem fieldFormula?_object {type : FieldType}
    (known : schema.fieldType? (rootField key) = some type)
    (plain : (FieldPath.ofKey key).isPlain = true) (scalar : type ≠ .json) (fields : Document) :
    fieldFormula? schema key (.object fields) = joined? .and (boundFormulas key fields) := by
  simp [fieldFormula?, known, plain, scalar]

theorem fieldFormula?_unknown (unknown : schema.fieldType? (rootField key) = none)
    (value : Value) : fieldFormula? schema key value = none := by
  simp [fieldFormula?, unknown]

theorem fieldFormula?_leaf {type : FieldType} (value : Value)
    (known : schema.fieldType? (rootField key) = some type)
    (whole : (FieldPath.ofKey key).isPlain = true → type ≠ .json → value.asDocument? = none) :
    fieldFormula? schema key value = some (.leaf ⟨key, .equal, value⟩) := by
  unfold fieldFormula?
  rw [known]
  cases value with
  | object fields =>
    have notRange : ¬ ((FieldPath.ofKey key).isPlain = true ∧ type ≠ .json) := by
      rintro ⟨plain, scalar⟩
      cases whole plain scalar
    simp only [notRange, ↓reduceIte]
  | _ => rfl

/-! ## Texts of comparisons -/

section Texts

variable {type : FieldType}

theorem comparisonText_bound (known : schema.fieldType? (rootField key) = some type)
    (operator : ComparisonOperator) (value : Value) :
    comparisonText schema ⟨key, .bound operator, value⟩ =
      boundText schema (rootField key) type (operator, value) := by
  rw [rootField] at known ⊢
  simp only [comparisonText, known, boundText]
  cases operator <;> simp [boundSign, comparisonSymbol, String.append_assoc]

theorem comparisonText_path (known : schema.fieldType? (rootField key) = some type)
    (dotted : (FieldPath.ofKey key).isPlain = false) (value : Value) :
    comparisonText schema ⟨key, .equal, value⟩ =
      jsonPathText schema (FieldPath.ofKey key) value := by
  rw [rootField] at known
  simp [comparisonText, known, dotted, jsonPathText]

theorem comparisonText_containment (known : schema.fieldType? (rootField key) = some .json)
    (plain : (FieldPath.ofKey key).isPlain = true) (value : Value) :
    comparisonText schema ⟨key, .equal, value⟩ = containmentText schema (rootField key) value := by
  rw [rootField] at known ⊢
  simp [comparisonText, known, plain, containmentText]

theorem comparisonText_equality (known : schema.fieldType? (rootField key) = some type)
    (plain : (FieldPath.ofKey key).isPlain = true) (scalar : type ≠ .json) (value : Value) :
    comparisonText schema ⟨key, .equal, value⟩ =
      equalityText schema (rootField key) type value := by
  rw [rootField] at known ⊢
  simp [comparisonText, known, plain, scalar, equalityText]

end Texts

end Sql

end UniversalQuery
