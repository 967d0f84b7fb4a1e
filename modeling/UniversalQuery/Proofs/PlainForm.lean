import UniversalQuery.Value

set_option autoImplicit false

/-! The plain form of a value: the same value in JSON, except that instants are ISO texts and that
what JSON has no number for is null. -/

namespace UniversalQuery.Value

mutual

/-- A value and its plain form. -/
inductive IsPlainForm : Value → Json → Prop where
  | null : IsPlainForm .null .null
  | bool {truth : Bool} : IsPlainForm (.bool truth) (.bool truth)
  | int {number : Int} : IsPlainForm (.int number) (.int number)
  | finite {number : Float} : number.isFinite = true → IsPlainForm (.float number) (.float number)
  | infinite {number : Float} : number.isFinite = false → IsPlainForm (.float number) .null
  | string {text : String} : IsPlainForm (.string text) (.string text)
  | date {instant : Instant} : IsPlainForm (.date instant) (.string instant.isoText)
  | array {items : List Value} {forms : List Json} :
      ArePlainForms items forms → IsPlainForm (.array items) (.array forms)
  | object {fields : List (String × Value)} {members : List (String × Json)} :
      ArePlainMembers fields members → IsPlainForm (.object fields) (.object members)

/-- The items of two lists, one for each and in order. -/
inductive ArePlainForms : List Value → List Json → Prop where
  | nil : ArePlainForms [] []
  | cons {item : Value} {form : Json} {items : List Value} {forms : List Json} :
      IsPlainForm item form → ArePlainForms items forms →
      ArePlainForms (item :: items) (form :: forms)

/-- The members of two objects, of the same names and in order. -/
inductive ArePlainMembers : List (String × Value) → List (String × Json) → Prop where
  | nil : ArePlainMembers [] []
  | cons {name : String} {value : Value} {form : Json} {fields : List (String × Value)}
      {members : List (String × Json)} :
      IsPlainForm value form → ArePlainMembers fields members →
      ArePlainMembers ((name, value) :: fields) ((name, form) :: members)

end

mutual

theorem isPlainForm_toPlainJson : (value : Value) → value.IsPlainForm value.toPlainJson
  | .null => .null
  | .bool _ => .bool
  | .int _ => .int
  | .float number => by
    rw [toPlainJson, floatToJson]
    split
    · rename_i finite
      exact .finite finite
    · rename_i infinite
      exact .infinite (by simpa using infinite)
  | .string _ => .string
  | .date _ => .date
  | .array items => .array (arePlainForms_toPlainJsonItems items)
  | .object fields => .object (arePlainMembers_toPlainJsonFields fields)

theorem arePlainForms_toPlainJsonItems :
    (items : List Value) → ArePlainForms items (toPlainJsonItems items)
  | [] => .nil
  | item :: rest => .cons (isPlainForm_toPlainJson item) (arePlainForms_toPlainJsonItems rest)

theorem arePlainMembers_toPlainJsonFields :
    (fields : List (String × Value)) → ArePlainMembers fields (toPlainJsonFields fields)
  | [] => .nil
  | (_, value) :: rest =>
    .cons (isPlainForm_toPlainJson value) (arePlainMembers_toPlainJsonFields rest)

end

mutual

theorem IsPlainForm.eq_toPlainJson {value : Value} {form : Json} (plain : value.IsPlainForm form) :
    form = value.toPlainJson := by
  cases plain with
  | finite finite => rw [toPlainJson, floatToJson, if_pos finite]
  | infinite infinite => rw [toPlainJson, floatToJson, if_neg (by simp [infinite])]
  | array items => rw [toPlainJson, items.eq_toPlainJsonItems]
  | object fields => rw [toPlainJson, fields.eq_toPlainJsonFields]
  | _ => rfl

theorem ArePlainForms.eq_toPlainJsonItems {items : List Value} {forms : List Json}
    (plain : ArePlainForms items forms) : forms = toPlainJsonItems items := by
  cases plain with
  | nil => rfl
  | cons item rest => rw [toPlainJsonItems, item.eq_toPlainJson, rest.eq_toPlainJsonItems]

theorem ArePlainMembers.eq_toPlainJsonFields {fields : List (String × Value)}
    {members : List (String × Json)} (plain : ArePlainMembers fields members) :
    members = toPlainJsonFields fields := by
  cases plain with
  | nil => rfl
  | cons value rest => rw [toPlainJsonFields, value.eq_toPlainJson, rest.eq_toPlainJsonFields]

end

/-- A value has one plain form, which is what is stored of it. -/
theorem isPlainForm_iff {value : Value} {form : Json} :
    value.IsPlainForm form ↔ form = value.toPlainJson := by
  constructor
  · exact IsPlainForm.eq_toPlainJson
  · intro same
    rw [same]
    exact isPlainForm_toPlainJson value

end UniversalQuery.Value
