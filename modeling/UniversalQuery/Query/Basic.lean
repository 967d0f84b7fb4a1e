import UniversalQuery.Value

set_option autoImplicit false

/-! Queries: a condition and an order, both optional. The condition stays a document; what a key of
it means depends on the target and on the schema. -/

namespace UniversalQuery

/-- The keys of a condition that join conditions. -/
inductive BooleanOperator where
  | and
  | or
deriving DecidableEq, Repr

namespace BooleanOperator

def all : List BooleanOperator := [.and, .or]

def key : BooleanOperator → String
  | .and => "and"
  | .or => "or"

def ofKey? (key : String) : Option BooleanOperator :=
  all.find? (·.key == key)

theorem key_of_ofKey? {key : String} {operator : BooleanOperator}
    (named : ofKey? key = some operator) : operator.key = key := by
  have found := List.find?_some named
  exact eq_of_beq found

theorem ofKey?_key (operator : BooleanOperator) : ofKey? operator.key = some operator := by
  cases operator <;> decide

theorem ofKey?_eq_none_iff {key : String} :
    ofKey? key = none ↔ ∀ operator : BooleanOperator, key ≠ operator.key := by
  constructor
  · rintro isField operator rfl
    rw [ofKey?_key] at isField
    cases isField
  · intro apart
    cases named : ofKey? key with
    | none => rfl
    | some operator => exact absurd (key_of_ofKey? named).symm (apart operator)

end BooleanOperator

/-- The keys of a range. -/
inductive ComparisonOperator where
  | gt
  | gte
  | lt
  | lte
deriving DecidableEq, Repr

namespace ComparisonOperator

def all : List ComparisonOperator := [.gt, .gte, .lt, .lte]

def key : ComparisonOperator → String
  | .gt => "gt"
  | .gte => "gte"
  | .lt => "lt"
  | .lte => "lte"

def ofKey? (key : String) : Option ComparisonOperator :=
  all.find? (·.key == key)

theorem key_of_ofKey? {key : String} {operator : ComparisonOperator}
    (named : ofKey? key = some operator) : operator.key = key := by
  have found := List.find?_some named
  exact eq_of_beq found

theorem ofKey?_key (operator : ComparisonOperator) : ofKey? operator.key = some operator := by
  cases operator <;> decide

theorem ofKey?_eq_none_iff {key : String} :
    ofKey? key = none ↔ ∀ operator : ComparisonOperator, key ≠ operator.key := by
  constructor
  · rintro other operator rfl
    rw [ofKey?_key] at other
    cases other
  · intro apart
    cases named : ofKey? key with
    | none => rfl
    | some operator => exact absurd (key_of_ofKey? named).symm (apart operator)

end ComparisonOperator

/-- The direction of a sort entry. -/
inductive Direction where
  | ascending
  | descending
deriving DecidableEq, Repr

namespace Direction

def keyword : Direction → String
  | .ascending => "ASC"
  | .descending => "DESC"

/-- The direction that a keyword names, in capitals or in small letters. -/
def ofKeyword? (text : String) : Option Direction :=
  if text = "ASC" ∨ text = "asc" then some .ascending
  else if text = "DESC" ∨ text = "desc" then some .descending
  else none

def unknownMessage (text : String) : String :=
  "unknown sort direction: " ++ text

end Direction

/-- One field to sort by. -/
structure OrderEntry where
  field : String
  direction : Direction
deriving DecidableEq, Repr

/-- A query that names no target. -/
structure Query where
  condition : Option Document
  order : Option (List OrderEntry)

def Query.empty : Query := ⟨none, none⟩

def Query.isEmpty (query : Query) : Bool :=
  query.condition.isNone && query.order.isNone

end UniversalQuery
