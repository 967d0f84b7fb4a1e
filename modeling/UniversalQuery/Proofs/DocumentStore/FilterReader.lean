import Mathlib.Data.List.Nodup
import UniversalQuery.DocumentStore.Filter
import UniversalQuery.Proofs.Formula

set_option autoImplicit false

/-! Reading filters as a document store does: the entries of a document are conjoined, a boolean
operator joins its documents, and an object of comparisons is the conjunction of its bounds. Every
other value is looked for. -/

namespace UniversalQuery.DocumentStore

open Formula

/-! ## Reading -/

def booleanOperator? : String → Option BooleanOperator
  | "$and" => some .and
  | "$or" => some .or
  | _ => none

def comparisonOperator? : String → Option ComparisonOperator
  | "$gt" => some .gt
  | "$gte" => some .gte
  | "$lt" => some .lt
  | "$lte" => some .lte
  | _ => none

/-- The bounds of a field, if all members of an object are comparisons. -/
def readBounds? (key : String) : List (String × Json) → Option (List (Formula (Comparison Json)))
  | [] => some []
  | (name, bound) :: rest => do
    let operator ← comparisonOperator? name
    let bounds ← readBounds? key rest
    some (.leaf ⟨key, .bound operator, bound⟩ :: bounds)

def readField (key : String) : Json → Formula (Comparison Json)
  | .object (member :: rest) =>
    match readBounds? key (member :: rest) with
    | some bounds => .join .and bounds
    | none => .leaf ⟨key, .equal, .object (member :: rest)⟩
  | value => .leaf ⟨key, .equal, value⟩

mutual

def readMember? (key : String) : Json → Option (Formula (Comparison Json))
  | .array items =>
    match booleanOperator? key with
    | some operator => (readDocuments? items).map (.join operator)
    | none => some (readField key (.array items))
  | value =>
    match booleanOperator? key with
    | some _ => none
    | none => some (readField key value)

def readDocuments? : List Json → Option (List (Formula (Comparison Json)))
  | [] => some []
  | .object members :: rest => do
    let entries ← readEntries? members
    let documents ← readDocuments? rest
    some (.join .and entries :: documents)
  | _ :: _ => none

def readEntries? : List (String × Json) → Option (List (Formula (Comparison Json)))
  | [] => some []
  | (key, value) :: rest => do
    let entry ← readMember? key value
    let entries ← readEntries? rest
    some (entry :: entries)

end

def readFilter? (filter : Entries Json) : Option (Formula (Comparison Json)) :=
  (readEntries? filter).map (.join .and)

/-! ## Keys -/

def filterKey (key : String) : String :=
  match BooleanOperator.ofKey? key with
  | some operator => operatorKey operator.key
  | none => key

theorem operatorKey_inj {key other : String} :
    operatorKey key = operatorKey other ↔ key = other := by
  simp [operatorKey]

theorem booleanOperator?_operatorKey (operator : BooleanOperator) :
    booleanOperator? (operatorKey operator.key) = some operator := by
  cases operator <;> rfl

theorem operatorKey_key_injective {operator other : BooleanOperator}
    (same : operatorKey operator.key = operatorKey other.key) : operator = other := by
  have read := booleanOperator?_operatorKey operator
  rw [same, booleanOperator?_operatorKey other] at read
  exact (Option.some.inj read).symm

theorem head?_operatorKey (key : String) : (operatorKey key).toList.head? = some '$' := by
  simp [operatorKey]

/-- Only keys with a dollar sign name operators. -/
theorem booleanOperator?_eq_none {key : String} (plain : key.toList.head? ≠ some '$') :
    booleanOperator? key = none := by
  unfold booleanOperator?
  split
  · exact absurd rfl plain
  · exact absurd rfl plain
  · rfl

theorem filterKey_field {key : String} (isField : BooleanOperator.ofKey? key = none) :
    filterKey key = key := by
  simp [filterKey, isField]

theorem filterKey_operator {key : String} {operator : BooleanOperator}
    (named : BooleanOperator.ofKey? key = some operator) :
    filterKey key = operatorKey operator.key := by
  simp [filterKey, named]

/-- Keys without a dollar sign stay apart in a filter. -/
theorem filterKey_injective {key other : String} (plain : key.toList.head? ≠ some '$')
    (apart : other.toList.head? ≠ some '$') (same : filterKey key = filterKey other) :
    key = other := by
  cases named : BooleanOperator.ofKey? key with
  | none =>
    rw [filterKey_field named] at same
    cases another : BooleanOperator.ofKey? other with
    | none => rwa [filterKey_field another] at same
    | some operator =>
      rw [filterKey_operator another] at same
      exact absurd (same ▸ head?_operatorKey operator.key) plain
  | some operator =>
    rw [filterKey_operator named] at same
    cases another : BooleanOperator.ofKey? other with
    | none =>
      rw [filterKey_field another] at same
      exact absurd (same ▸ head?_operatorKey operator.key) apart
    | some second =>
      rw [filterKey_operator another] at same
      rw [← BooleanOperator.key_of_ofKey? named, operatorKey_key_injective same,
        BooleanOperator.key_of_ofKey? another]

theorem nodup_filterKeys {fields : Document} (distinct : (Entries.names fields).Nodup)
    (plain : ∀ key ∈ Entries.names fields, key.toList.head? ≠ some '$') :
    ((Entries.names fields).map filterKey).Nodup := by
  refine List.Nodup.map_on ?_ distinct
  intro key member other another same
  exact filterKey_injective (plain key member) (plain other another) same

/-! ## Fields -/

theorem filterEntry_field {key : String} (isField : BooleanOperator.ofKey? key = none)
    (value : Value) : filterEntry key value = .ok (key, operand value) := by
  cases value <;> simp [filterEntry, isField]

theorem filterEntry_operator {key : String} {operator : BooleanOperator} {items : List Value}
    {filters : List Json} (named : BooleanOperator.ofKey? key = some operator)
    (members : filterItems operator items = .ok filters) :
    filterEntry key (.array items) = .ok (operatorKey operator.key, .array filters) := by
  rw [filterEntry, named]
  simp only [members]
  rfl

theorem readMember?_field {key : String} (plain : key.toList.head? ≠ some '$') (value : Json) :
    readMember? key value = some (readField key value) := by
  have field := booleanOperator?_eq_none plain
  cases value <;> simp [readMember?, field]

/-- The operators of a range, and no others, are read behind a dollar sign. -/
theorem comparisonOperator?_operatorKey (key : String) :
    comparisonOperator? (operatorKey key) = ComparisonOperator.ofKey? key := by
  cases named : ComparisonOperator.ofKey? key with
  | some operator =>
    rw [← ComparisonOperator.key_of_ofKey? named]
    cases operator <;> rfl
  | none =>
    have other := ComparisonOperator.ofKey?_eq_none_iff.mp named
    unfold comparisonOperator?
    split
    · exact absurd (operatorKey_inj.mp ‹operatorKey key = operatorKey "gt"›) (other .gt)
    · exact absurd (operatorKey_inj.mp ‹operatorKey key = operatorKey "gte"›) (other .gte)
    · exact absurd (operatorKey_inj.mp ‹operatorKey key = operatorKey "lt"›) (other .lt)
    · exact absurd (operatorKey_inj.mp ‹operatorKey key = operatorKey "lte"›) (other .lte)
    · rfl

end UniversalQuery.DocumentStore
