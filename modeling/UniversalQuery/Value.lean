import UniversalQuery.Instant
import UniversalQuery.Json.Basic

set_option autoImplicit false

/-! Values of a query: JSON with instants. The object `{"$date": "…"}` stands for an instant. -/

namespace UniversalQuery

/-- A value that a query or a record may hold. -/
inductive Value where
  | null
  | bool (truth : Bool)
  | int (number : Int)
  | float (number : Float)
  | string (text : String)
  | date (instant : Instant)
  | array (items : List Value)
  | object (fields : List (String × Value))
deriving Inhabited

/-- What holds of a value, given that it holds of the items and of the field values in it, holds of
every value. -/
@[elab_as_elim]
theorem Value.nestedInduction {motive : Value → Prop} (null : motive .null)
    (bool : ∀ truth, motive (.bool truth)) (int : ∀ number, motive (.int number))
    (float : ∀ number, motive (.float number)) (string : ∀ text, motive (.string text))
    (date : ∀ instant, motive (.date instant))
    (array : ∀ items, (∀ item ∈ items, motive item) → motive (.array items))
    (object : ∀ fields, (∀ field ∈ fields, motive field.2) → motive (.object fields))
    (value : Value) : motive value :=
  @Value.rec motive (fun items => ∀ item ∈ items, motive item)
    (fun fields => ∀ field ∈ fields, motive field.2) (fun field => motive field.2)
    null bool int float string date array object
    (by simp) (fun _ _ head tail => List.forall_mem_cons.mpr ⟨head, tail⟩)
    (by simp) (fun _ _ head tail => List.forall_mem_cons.mpr ⟨head, tail⟩)
    (fun _ _ value => value) value

/-- Named values in order: a condition, or a record to write. -/
abbrev Document := Entries Value

namespace Value

def dateKey : String := "$date"

def asDocument? : Value → Option Document
  | .object fields => some fields
  | _ => none

def asString? : Value → Option String
  | .string text => some text
  | _ => none

/-- The instant that a value stands for, which may be given as an RFC 3339 text. -/
def asInstant? : Value → Option Instant
  | .date instant => some instant
  | .string text => Instant.ofText? text
  | _ => none

/-- Whether a value counts as true. Null, false, zero, what is not a number and the empty text do
not; every instant, list and object does. -/
def isTruthy : Value → Bool
  | .null => false
  | .bool truth => truth
  | .int number => number != 0
  | .float number => number != 0 && !number.isNaN
  | .string text => text != ""
  | .date _ => true
  | .array _ => true
  | .object _ => true

/-! ## Equality -/

mutual

/-- Whether two values are equal. Floating-point numbers are compared as numbers, so what is not a
number differs from itself and the two zeros are equal. The order of fields does not matter. -/
def same : Value → Value → Bool
  | .null, .null => true
  | .bool left, .bool right => left == right
  | .int left, .int right => left == right
  | .float left, .float right => left == right
  | .string left, .string right => left == right
  | .date left, .date right => left == right
  | .array left, .array right => sameItems left right
  | .object left, .object right => left.length == right.length && sameFields left right
  | _, _ => false

def sameItems : List Value → List Value → Bool
  | [], [] => true
  | left :: lefts, right :: rights => left.same right && sameItems lefts rights
  | _, _ => false

/-- Whether each field of a document has an equal one in another document, wherever it stands. -/
def sameFields : List (String × Value) → List (String × Value) → Bool
  | [], _ => true
  | (name, left) :: lefts, rights =>
    match Entries.get? rights name with
    | some right => left.same right && sameFields lefts rights
    | none => false

end

instance : BEq Value := ⟨same⟩

def isNull : Value → Bool
  | .null => true
  | _ => false

/-! ## From JSON -/

/-- The instant that the members of an object stand for, if they are a lone date. -/
def loneDate? : List (String × Json) → Option Instant
  | [(name, .string text)] => if name = dateKey then Instant.ofText? text else none
  | _ => none

mutual

def ofJson : Json → Value
  | .null => .null
  | .bool truth => .bool truth
  | .int number => .int number
  | .float number => .float number
  | .string text => .string text
  | .array items => .array (ofJsonItems items)
  | .object members =>
    match loneDate? members with
    | some instant => .date instant
    | none => .object (ofJsonMembers members)

def ofJsonItems : List Json → List Value
  | [] => []
  | item :: rest => ofJson item :: ofJsonItems rest

def ofJsonMembers : List (String × Json) → Document
  | [] => []
  | (name, json) :: rest => (name, ofJson json) :: ofJsonMembers rest

end

/-! ## To JSON -/

/-- A number, or null where JSON has no number. -/
def floatToJson (number : Float) : Json :=
  if number.isFinite then .float number else .null

mutual

/-- The JSON value of a value. Instants are objects with a date key. -/
def toJson : Value → Json
  | .null => .null
  | .bool truth => .bool truth
  | .int number => .int number
  | .float number => floatToJson number
  | .string text => .string text
  | .date instant => .object [(dateKey, .string instant.isoText)]
  | .array items => .array (toJsonItems items)
  | .object fields => .object (toJsonFields fields)

def toJsonItems : List Value → List Json
  | [] => []
  | item :: rest => toJson item :: toJsonItems rest

def toJsonFields : Document → List (String × Json)
  | [] => []
  | (name, value) :: rest => (name, toJson value) :: toJsonFields rest

end

mutual

/-- The JSON value as it is stored in a column, where instants are texts. -/
def toPlainJson : Value → Json
  | .null => .null
  | .bool truth => .bool truth
  | .int number => .int number
  | .float number => floatToJson number
  | .string text => .string text
  | .date instant => .string instant.isoText
  | .array items => .array (toPlainJsonItems items)
  | .object fields => .object (toPlainJsonFields fields)

def toPlainJsonItems : List Value → List Json
  | [] => []
  | item :: rest => toPlainJson item :: toPlainJsonItems rest

def toPlainJsonFields : Document → List (String × Json)
  | [] => []
  | (name, value) :: rest => (name, toPlainJson value) :: toPlainJsonFields rest

end

theorem ofJsonItems_eq_map (items : List Json) : ofJsonItems items = items.map ofJson := by
  induction items with
  | nil => rfl
  | cons item rest ih => simp [ofJsonItems, ih]

theorem toJsonItems_eq_map (items : List Value) : toJsonItems items = items.map toJson := by
  induction items with
  | nil => rfl
  | cons item rest ih => simp [toJsonItems, ih]

theorem ofJsonMembers_eq_map (members : List (String × Json)) :
    ofJsonMembers members = members.map fun member => (member.1, ofJson member.2) := by
  induction members with
  | nil => rfl
  | cons member rest ih => simp [ofJsonMembers, ih]

theorem toJsonFields_eq_map (fields : Document) :
    toJsonFields fields = fields.map fun field => (field.1, toJson field.2) := by
  induction fields with
  | nil => rfl
  | cons field rest ih => simp [toJsonFields, ih]

end Value

/-! ## Distinct keys -/

mutual

/-- Whether the keys of every object in a value are distinct, as they are in a map. -/
def Value.hasDistinctKeys : Value → Bool
  | .array items => distinctItems items
  | .object fields => decide (Entries.names fields).Nodup && distinctFields fields
  | _ => true

def distinctItems : List Value → Bool
  | [] => true
  | item :: rest => item.hasDistinctKeys && distinctItems rest

def distinctFields : List (String × Value) → Bool
  | [] => true
  | (_, value) :: rest => value.hasDistinctKeys && distinctFields rest

end

theorem distinctItems_eq_true_iff {items : List Value} :
    distinctItems items = true ↔ ∀ item ∈ items, item.hasDistinctKeys = true := by
  induction items with
  | nil => simp [distinctItems]
  | cons item rest ih => rw [distinctItems, Bool.and_eq_true, ih, List.forall_mem_cons]

theorem distinctFields_eq_true_iff {fields : List (String × Value)} :
    distinctFields fields = true ↔ ∀ field ∈ fields, field.2.hasDistinctKeys = true := by
  induction fields with
  | nil => simp [distinctFields]
  | cons field rest ih => rw [distinctFields, Bool.and_eq_true, ih, List.forall_mem_cons]

theorem Value.hasDistinctKeys_array_iff {items : List Value} :
    (Value.array items).hasDistinctKeys = true ↔
      ∀ item ∈ items, item.hasDistinctKeys = true := by
  rw [Value.hasDistinctKeys, distinctItems_eq_true_iff]

theorem Value.hasDistinctKeys_object_iff {fields : Document} :
    (Value.object fields).hasDistinctKeys = true ↔
      (Entries.names fields).Nodup ∧ ∀ field ∈ fields, field.2.hasDistinctKeys = true := by
  rw [Value.hasDistinctKeys, Bool.and_eq_true, decide_eq_true_eq, distinctFields_eq_true_iff]

/-- The document of the members of an object. A lone date is a document here, not an instant. -/
def Document.ofMembers (members : List (String × Json)) : Document :=
  Entries.ofPairs (members.map fun member => (member.1, Value.ofJson member.2.merged))

end UniversalQuery
