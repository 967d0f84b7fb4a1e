import UniversalQuery.Entries

set_option autoImplicit false

/-! Records of a fixed list of fields, given by name or by position. -/

namespace UniversalQuery.Record

variable {α : Type}

/-- The fields of a record given by name. Other names are ignored; a field may not come twice. -/
def ofMembers? (fields : List String) (members : List (String × α)) : Option (List (Option α)) :=
  let known := members.filter fun member => member.1 ∈ fields
  if (Entries.firstRepeated? (Entries.names known)).isSome then none
  else some (fields.map (Entries.get? members))

/-- The fields of a record given by position. The last ones may be missing; there may not be more
items than fields. -/
def ofItems? (fields : List String) (items : List α) : Option (List (Option α)) :=
  if fields.length < items.length then none
  else some (items.map some ++ List.replicate (fields.length - items.length) none)

end UniversalQuery.Record
