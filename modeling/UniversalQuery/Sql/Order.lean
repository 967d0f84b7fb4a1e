import UniversalQuery.Sql.Predicate

set_option autoImplicit false

/-! The order of a query in SQL. -/

namespace UniversalQuery.Sql

/-- The entries on known fields, in order. -/
def knownOrder (schema : Schema) (policy : UnknownFields) :
    List OrderEntry → Except CompileError (List OrderEntry)
  | [] => .ok []
  | entry :: rest =>
    if (schema.fieldType? (rootField entry.field)).isSome then do
      let known ← knownOrder schema policy rest
      .ok (entry :: known)
    else
      match policy with
      | .reject => .error (.unresolvableField entry.field)
      | .drop => knownOrder schema policy rest

def orderItem (schema : Schema) (entry : OrderEntry) : String :=
  reference schema (FieldPath.ofKey entry.field) ++ " " ++ entry.direction.keyword

def orderClause (schema : Schema) (entries : List OrderEntry) : String :=
  if entries = [] then ""
  else " ORDER BY " ++ ", ".intercalate (entries.map (orderItem schema))

/-- The clause of an order that may be absent. -/
def orderText (schema : Schema) (policy : UnknownFields) (order : Option (List OrderEntry)) :
    Except CompileError String :=
  (knownOrder schema policy (order.getD [])).map (orderClause schema)

end UniversalQuery.Sql
