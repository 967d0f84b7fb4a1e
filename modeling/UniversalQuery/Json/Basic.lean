import UniversalQuery.Entries

set_option autoImplicit false

/-! JSON values. The members of an object are ordered. -/

namespace UniversalQuery

/-- A JSON value. Whole numbers and floating-point numbers are apart. -/
inductive Json where
  | null
  | bool (truth : Bool)
  | int (number : Int)
  | float (number : Float)
  | string (text : String)
  | array (items : List Json)
  | object (members : List (String × Json))
deriving Inhabited

/-- What holds of a JSON value, given that it holds of the items and of the members in it, holds of
every JSON value. -/
@[elab_as_elim]
theorem Json.nestedInduction {motive : Json → Prop} (null : motive .null)
    (bool : ∀ truth, motive (.bool truth)) (int : ∀ number, motive (.int number))
    (float : ∀ number, motive (.float number)) (string : ∀ text, motive (.string text))
    (array : ∀ items, (∀ item ∈ items, motive item) → motive (.array items))
    (object : ∀ members, (∀ member ∈ members, motive member.2) → motive (.object members))
    (json : Json) : motive json :=
  @Json.rec motive (fun items => ∀ item ∈ items, motive item)
    (fun members => ∀ member ∈ members, motive member.2) (fun member => motive member.2)
    null bool int float string array object
    (by simp) (fun _ _ head tail => List.forall_mem_cons.mpr ⟨head, tail⟩)
    (by simp) (fun _ _ head tail => List.forall_mem_cons.mpr ⟨head, tail⟩)
    (fun _ _ value => value) json

namespace Json

mutual

/-- The value in which every object keeps, of the members with one name, the first place and the
last value. -/
def merged : Json → Json
  | .array items => .array (mergedItems items)
  | .object members => .object (Entries.ofPairs (mergedMembers members))
  | other => other

def mergedItems : List Json → List Json
  | [] => []
  | item :: rest => item.merged :: mergedItems rest

def mergedMembers : List (String × Json) → List (String × Json)
  | [] => []
  | (name, value) :: rest => (name, value.merged) :: mergedMembers rest

end

theorem mergedItems_eq_map (items : List Json) : mergedItems items = items.map merged := by
  induction items with
  | nil => rfl
  | cons item rest ih => simp [mergedItems, ih]

theorem mergedMembers_eq_map (members : List (String × Json)) :
    mergedMembers members = members.map fun member => (member.1, member.2.merged) := by
  induction members with
  | nil => rfl
  | cons member rest ih => simp [mergedMembers, ih]

def asString? : Json → Option String
  | .string text => some text
  | _ => none

end Json

end UniversalQuery
