import UniversalQuery.FieldPath
import UniversalQuery.Query.Basic
import UniversalQuery.Schema.Model

set_option autoImplicit false

/-! Conditions on tables. Every entry of a condition document becomes one condition, for which the
schema decides what its key and its value mean. -/

namespace UniversalQuery.Sql

/-- Why a query cannot be compiled. -/
inductive CompileError where
  /-- An entry is on a field that no table declares. -/
  | unresolvableField (field : String)
  /-- A range has a key that is no comparison. -/
  | unknownOperator (field operator : String)
  /-- A boolean operator has an operand that is not a list of objects. -/
  | invalidBooleanOperand (operator : BooleanOperator)
deriving DecidableEq, Repr

def CompileError.message : CompileError → String
  | .unresolvableField field =>
    "unresolvable condition: field '" ++ field ++ "' is not defined in the schema"
  | .unknownOperator field operator =>
    "unknown operator '" ++ operator ++ "' for field '" ++ field ++ "'"
  | .invalidBooleanOperand operator =>
    "'" ++ operator.key ++ "' expects a list of condition objects"

/-- A condition on the columns of tables. -/
inductive Condition where
  | equality (field : String) (type : FieldType) (value : Value)
  /-- A column lies within all bounds. -/
  | range (field : String) (type : FieldType) (bounds : List (ComparisonOperator × Value))
  /-- The conditions of all groups together, joined by one operator. -/
  | boolean (operator : BooleanOperator) (groups : List (List Condition))
  /-- The text at a path into a JSON column equals the text of a value. -/
  | jsonPath (path : FieldPath) (value : Value)
  /-- A JSON column contains a value. -/
  | containment (field : String) (value : Value)

def unknownField (policy : UnknownFields) (field : String) :
    Except CompileError (Option Condition) :=
  match policy with
  | .reject => .error (.unresolvableField field)
  | .drop => .ok none

def rangeBounds (field : String) :
    List (String × Value) → Except CompileError (List (ComparisonOperator × Value))
  | [] => .ok []
  | (key, bound) :: rest =>
    match ComparisonOperator.ofKey? key with
    | none => .error (.unknownOperator field key)
    | some operator => do
      let bounds ← rangeBounds field rest
      .ok ((operator, bound) :: bounds)

def classifyField (schema : Schema) (policy : UnknownFields) (key : String) (value : Value) :
    Except CompileError (Option Condition) :=
  let path := FieldPath.ofKey key
  match schema.fieldType? path.root with
  | none => unknownField policy key
  | some type =>
    if !path.isPlain then .ok (some (.jsonPath path value))
    else if type = .json then .ok (some (.containment key value))
    else match value with
      | .object fields => do
        let bounds ← rangeBounds key fields
        .ok (some (.range key type bounds))
      | value => .ok (some (.equality key type value))

mutual

/-- The condition of one entry. There is none if its field is unknown and such entries are
dropped. -/
def classifyEntry (schema : Schema) (policy : UnknownFields) (key : String) :
    Value → Except CompileError (Option Condition)
  | .array items =>
    match BooleanOperator.ofKey? key with
    | some operator => do
      let groups ← classifyGroups schema policy operator items
      .ok (some (.boolean operator groups))
    | none => classifyField schema policy key (.array items)
  | value =>
    match BooleanOperator.ofKey? key with
    | some operator => .error (.invalidBooleanOperand operator)
    | none => classifyField schema policy key value

/-- The conditions of the members of a boolean operand, one group for each. -/
def classifyGroups (schema : Schema) (policy : UnknownFields) (operator : BooleanOperator) :
    List Value → Except CompileError (List (List Condition))
  | [] => .ok []
  | .object fields :: rest => do
    let group ← classify schema policy fields
    let groups ← classifyGroups schema policy operator rest
    .ok (group :: groups)
  | _ :: _ => .error (.invalidBooleanOperand operator)

/-- The conditions of a document, in key order. -/
def classify (schema : Schema) (policy : UnknownFields) :
    List (String × Value) → Except CompileError (List Condition)
  | [] => .ok []
  | (key, value) :: rest => do
    let condition ← classifyEntry schema policy key value
    let conditions ← classify schema policy rest
    .ok (condition.toList ++ conditions)

end

end UniversalQuery.Sql
