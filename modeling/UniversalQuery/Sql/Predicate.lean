import UniversalQuery.Sql.Condition
import UniversalQuery.Sql.Literal

set_option autoImplicit false

/-! The text of conditions. `AND` binds tighter than `OR`, so a text remembers the loosest operator
on its top level and gets parentheses only where it would otherwise be read differently. -/

namespace UniversalQuery.Sql

/-! ## References -/

/-- The reference to a column, after the name of its table if the schema asks for it. -/
def columnReference (schema : Schema) (field : String) : String :=
  match schema.owner? field with
  | some table => if schema.qualifies then table ++ "." ++ field else field
  | none => field

/-- The steps of a path into a JSON column. Only the last one yields text. -/
def pathSteps : List String → String
  | [] => ""
  | [segment] => "->>" ++ quote segment
  | segment :: rest => "->" ++ quote segment ++ pathSteps rest

def reference (schema : Schema) (path : FieldPath) : String :=
  columnReference schema path.root ++ pathSteps path.segments

/-! ## Predicates -/

def comparisonSymbol : ComparisonOperator → String
  | .gt => ">"
  | .gte => ">="
  | .lt => "<"
  | .lte => "<="

def separator : BooleanOperator → String
  | .and => " AND "
  | .or => " OR "

theorem separator_ne_empty (operator : BooleanOperator) : separator operator ≠ "" := by
  cases operator <;> decide

/-- The text of a predicate with the loosest operator on its top level. -/
structure Predicate where
  text : String
  joinedBy : BooleanOperator
deriving DecidableEq, Repr

namespace Predicate

def atom (text : String) : Predicate :=
  ⟨text, .and⟩

def operand (operator : BooleanOperator) (predicate : Predicate) : String :=
  if operator = .and ∧ predicate.joinedBy = .or then "(" ++ predicate.text ++ ")"
  else predicate.text

/-- Joins the predicates that are not empty. A single one stays as it is. -/
def join (operator : BooleanOperator) (predicates : List Predicate) : Predicate :=
  match predicates.filter (·.text != "") with
  | [] => atom ""
  | [predicate] => predicate
  | several => ⟨(separator operator).intercalate (several.map (operand operator)), operator⟩

/-- What the predicates that are not empty are joined to. -/
inductive Joins (operator : BooleanOperator) : List Predicate → Predicate → Prop where
  | none : Joins operator [] (atom "")
  | one {predicate : Predicate} : Joins operator [predicate] predicate
  | several {first second : Predicate} {rest : List Predicate} :
      Joins operator (first :: second :: rest)
        ⟨(separator operator).intercalate ((first :: second :: rest).map (operand operator)),
          operator⟩

theorem joins (operator : BooleanOperator) (predicates : List Predicate) :
    Joins operator (predicates.filter (·.text != "")) (join operator predicates) := by
  unfold join
  generalize predicates.filter (·.text != "") = kept
  match kept with
  | [] => exact .none
  | [_] => exact .one
  | _ :: _ :: _ => exact .several

theorem filter_text_eq_nil_iff {predicates : List Predicate} :
    predicates.filter (·.text != "") = [] ↔ ∀ predicate ∈ predicates, predicate.text = "" := by
  simp [List.filter_eq_nil_iff]

/-- A joined predicate is empty only if all that is joined is empty. -/
theorem join_text_eq_empty_iff {operator : BooleanOperator} {predicates : List Predicate} :
    (join operator predicates).text = "" ↔ ∀ predicate ∈ predicates, predicate.text = "" := by
  rw [← filter_text_eq_nil_iff]
  have visible : ∀ predicate ∈ predicates.filter (·.text != ""), predicate.text ≠ "" :=
    fun predicate kept => bne_iff_ne.mp (List.mem_filter.mp kept).2
  have joined := joins operator predicates
  generalize join operator predicates = whole at joined ⊢
  generalize predicates.filter (·.text != "") = kept at joined visible ⊢
  cases joined with
  | none => exact iff_of_true rfl rfl
  | one => exact iff_of_false (visible _ List.mem_cons_self) (List.cons_ne_nil _ _)
  | several =>
    refine iff_of_false ?_ (List.cons_ne_nil _ _)
    rw [List.map_cons, String.intercalate_cons_of_ne_nil (by simp)]
    simp [separator_ne_empty]

end Predicate

def equalityText (schema : Schema) (field : String) (type : FieldType) (value : Value) : String :=
  columnReference schema field ++ "=" ++ literal type value

def boundText (schema : Schema) (field : String) (type : FieldType)
    (bound : ComparisonOperator × Value) : String :=
  columnReference schema field ++ " " ++ comparisonSymbol bound.1 ++ " " ++ literal type bound.2

/-- The predicate that the text at a path equals the text of a value. -/
def jsonPathText (schema : Schema) (path : FieldPath) (value : Value) : String :=
  reference schema path ++ "=" ++ quote (textOf value)

def containmentText (schema : Schema) (field : String) (value : Value) : String :=
  columnReference schema field ++ "::jsonb @> " ++ jsonLiteral value ++ "::jsonb"

mutual

def render (schema : Schema) : Condition → Predicate
  | .equality field type value => .atom (equalityText schema field type value)
  | .range field type bounds =>
    .join .and (bounds.map fun bound => .atom (boundText schema field type bound))
  | .boolean operator groups => .join operator (renderGroups schema groups)
  | .jsonPath path value => .atom (jsonPathText schema path value)
  | .containment field value => .atom (containmentText schema field value)

def renderGroup (schema : Schema) : List Condition → List Predicate
  | [] => []
  | condition :: rest => render schema condition :: renderGroup schema rest

def renderGroups (schema : Schema) : List (List Condition) → List Predicate
  | [] => []
  | group :: rest => renderGroup schema group ++ renderGroups schema rest

end

theorem renderGroup_append {schema : Schema} (first second : List Condition) :
    renderGroup schema (first ++ second) =
      renderGroup schema first ++ renderGroup schema second := by
  induction first with
  | nil => rfl
  | cons condition rest ih => simp [renderGroup, ih]

/-- The predicate of a list of conditions, all of which have to hold. -/
def predicate (schema : Schema) (conditions : List Condition) : Predicate :=
  .join .and (renderGroup schema conditions)

/-- The clause of a list of conditions, empty if there is nothing to check. -/
def whereClause (schema : Schema) (conditions : List Condition) : String :=
  let text := (predicate schema conditions).text
  if text = "" then "" else " WHERE " ++ text

def predicateText (schema : Schema) (policy : UnknownFields) (document : Document) :
    Except CompileError String :=
  (classify schema policy document).map fun conditions => (predicate schema conditions).text

/-- The conditions of a document that may be absent. -/
def classifyOptional (schema : Schema) (policy : UnknownFields) :
    Option Document → Except CompileError (List Condition)
  | none => .ok []
  | some document => classify schema policy document

/-- The clause of a document that may be absent. -/
def whereText (schema : Schema) (policy : UnknownFields) (document : Option Document) :
    Except CompileError String :=
  (classifyOptional schema policy document).map (whereClause schema)

end UniversalQuery.Sql
