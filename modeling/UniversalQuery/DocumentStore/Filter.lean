import UniversalQuery.Query.Basic

set_option autoImplicit false

/-! Filters of a document store. They need no schema: keys stay as they are, boolean operators and
the operators of a range get a dollar sign, and instants are objects with a date key. -/

namespace UniversalQuery.DocumentStore

/-- Why a condition has no filter. -/
inductive FilterError where
  /-- A boolean operator has an operand that is not a list of objects. -/
  | invalidBooleanOperand (operator : BooleanOperator)
deriving DecidableEq, Repr

def FilterError.message : FilterError → String
  | .invalidBooleanOperand operator =>
    "'" ++ operator.key ++ "' expects a list of condition objects"

def operatorKey (key : String) : String :=
  "$" ++ key

def isRange (fields : Document) : Bool :=
  !fields.isEmpty && fields.all fun field => (ComparisonOperator.ofKey? field.1).isSome

/-- The operand of a field in a filter: the bounds of a range, or the value that is looked for. -/
def operand : Value → Json
  | .object fields =>
    if isRange fields then
      .object (fields.map fun field => (operatorKey field.1, field.2.toJson))
    else (Value.object fields).toJson
  | value => value.toJson

mutual

def filterEntry (key : String) : Value → Except FilterError (String × Json)
  | .array items =>
    match BooleanOperator.ofKey? key with
    | some operator => do
      let filters ← filterItems operator items
      .ok (operatorKey operator.key, .array filters)
    | none => .ok (key, operand (.array items))
  | value =>
    match BooleanOperator.ofKey? key with
    | some operator => .error (.invalidBooleanOperand operator)
    | none => .ok (key, operand value)

def filterItems (operator : BooleanOperator) : List Value → Except FilterError (List Json)
  | [] => .ok []
  | .object fields :: rest => do
    let entries ← filterEntries fields
    let filters ← filterItems operator rest
    .ok (.object (Entries.ofPairs entries) :: filters)
  | _ :: _ => .error (.invalidBooleanOperand operator)

/-- The entries of a filter, one for each entry of a condition, before equal keys become one. -/
def filterEntries : List (String × Value) → Except FilterError (List (String × Json))
  | [] => .ok []
  | (key, value) :: rest => do
    let entry ← filterEntry key value
    let entries ← filterEntries rest
    .ok (entry :: entries)

end

/-- The filter of a condition. Equal keys are one entry, with the first place and the last
value. -/
def filter (condition : Document) : Except FilterError (Entries Json) :=
  (filterEntries condition).map Entries.ofPairs

/-- The filter of a condition that may be absent. -/
def filterOptional : Option Document → Except FilterError (Entries Json)
  | none => .ok []
  | some condition => filter condition

end UniversalQuery.DocumentStore
