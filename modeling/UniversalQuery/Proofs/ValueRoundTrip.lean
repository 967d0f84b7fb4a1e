import Mathlib.Logic.Basic
import UniversalQuery.Proofs.InstantText
import UniversalQuery.Value

set_option autoImplicit false

/-! Values on their way to JSON and back. What JSON has no numeral or text for is lost on the way,
and so is an object that looks like an instant; all other values come back as they were. -/

namespace UniversalQuery

/-! ## Equality of numbers -/

private theorem isFinite_eq_true_iff {number : Float} :
    number.isFinite = true ↔ ¬(number.isNaN = true ∨ number.isInf = true) := by
  change number.toModel.unpack.isFinite = true ↔
    ¬(number.toModel.unpack.isNaN = true ∨ number.toModel.unpack.isInf = true)
  cases number.toModel.unpack with
  | notANumber => exact iff_of_false Bool.false_ne_true (not_not_intro (.inl rfl))
  | infinity => exact iff_of_false Bool.false_ne_true (not_not_intro (.inr rfl))
  | zero | finite =>
    refine iff_of_true rfl ?_
    rintro (wrong | infinite)
    · cases wrong
    · cases infinite

private theorem beq_self_of_isFinite {number : Float} (finite : number.isFinite = true) :
    (number == number) = true := by
  change number.toModel.unpack.isFinite = true at finite
  change (number.toModel.unpack.compare number.toModel.unpack == some .eq) = true
  cases unpacked : number.toModel.unpack with
  | notANumber =>
    rw [unpacked] at finite
    cases finite
  | infinity sign =>
    rw [unpacked] at finite
    cases finite
  | zero sign => rfl
  | finite sign mantissa exponent positive =>
    have same : (compare exponent exponent).then (compare mantissa mantissa) = .eq := by
      rw [Std.ReflOrd.compare_self, Std.ReflOrd.compare_self]
      rfl
    cases sign with
    | negative => exact congrArg (some ·.swap == some .eq) same
    | positive => exact congrArg (some · == some .eq) same

namespace Value

/-! ## Parts that are lost -/

/-- A value that is part of another one, at any depth. Every value is part of itself. -/
inductive OccursIn (part : Value) : Value → Prop where
  | self : OccursIn part part
  | item {items item} : item ∈ items → OccursIn part item → OccursIn part (.array items)
  | field {fields field} : field ∈ fields → OccursIn part field.2 → OccursIn part (.object fields)

/-- A value that JSON has no form for, or has the form of another value. -/
inductive IsLost : Value → Prop where
  | number {number} : number.isNaN = true ∨ number.isInf = true → IsLost (.float number)
  | fine {instant : Instant} : instant.nanosecond % Nat.pow 10 6 ≠ 0 → IsLost (.date instant)
  | signedYear {instant : Instant} : ¬(0 ≤ instant.year ∧ instant.year ≤ 9999) →
      IsLost (.date instant)
  | marker {text instant} : Instant.ofText? text = some instant →
      IsLost (.object [(dateKey, .string text)])

/-- No part of the value is lost. -/
def IsKept (value : Value) : Prop :=
  ∀ part, OccursIn part value → ¬part.IsLost

theorem isKept_array_iff {items : List Value} :
    IsKept (.array items) ↔ ∀ item ∈ items, item.IsKept := by
  constructor
  · intro kept item member part occurs
    exact kept part (.item member occurs)
  · intro kept part occurs
    cases occurs with
    | self => exact fun lost => by cases lost
    | item member inside => exact kept _ member part inside

theorem isKept_object_iff {fields : Document} :
    IsKept (.object fields) ↔ ¬IsLost (.object fields) ∧ ∀ field ∈ fields, field.2.IsKept := by
  constructor
  · intro kept
    exact ⟨kept _ .self, fun field member part occurs => kept part (.field member occurs)⟩
  · rintro ⟨whole, kept⟩ part occurs
    cases occurs with
    | self => exact whole
    | field member inside => exact kept _ member part inside

/-! ## The way through JSON -/

/-- The value that is read from the JSON form of a value. -/
def throughJson (value : Value) : Value :=
  ofJson value.toJson

theorem throughJson_array (items : List Value) :
    throughJson (.array items) = .array (items.map throughJson) := by
  rw [throughJson, toJson, ofJson, toJsonItems_eq_map, ofJsonItems_eq_map, List.map_map]
  rfl

theorem throughJson_object {fields : Document} (object : loneDate? (toJsonFields fields) = none) :
    throughJson (.object fields) = .object (Entries.mapValues throughJson fields) := by
  rw [throughJson, toJson, ofJson, object]
  simp only [ofJsonMembers_eq_map, toJsonFields_eq_map, List.map_map]
  rfl

theorem throughJson_marker {fields : Document} {instant : Instant}
    (marker : loneDate? (toJsonFields fields) = some instant) :
    throughJson (.object fields) = .date instant := by
  rw [throughJson, toJson, ofJson, marker]

theorem throughJson_float (number : Float) :
    throughJson (.float number) = if number.isFinite then .float number else .null := by
  rw [throughJson, toJson, floatToJson]
  split <;> rfl

theorem loneDate?_marker (text : String) :
    loneDate? [(dateKey, .string text)] = Instant.ofText? text := by
  rw [loneDate?, if_pos rfl]

/-- The text of an instant is read as an instant only if its year has four digits. -/
theorem throughJson_date (instant : Instant) :
    throughJson (.date instant) =
      if 0 ≤ instant.year ∧ instant.year ≤ 9999 then .date instant.truncated
      else .object [(dateKey, .string instant.isoText)] := by
  rw [throughJson, toJson, ofJson, loneDate?_marker]
  split
  · rename_i found read
    split
    · rename_i fourDigits
      rw [Instant.ofText?_isoText_of_year fourDigits.1 fourDigits.2] at read
      rw [Option.some.inj read]
    · rename_i signed
      rw [Instant.ofText?_isoText_eq_none signed] at read
      cases read
  · rename_i unread
    rw [if_neg]
    · rfl
    · rintro ⟨nonneg, fourDigits⟩
      rw [Instant.ofText?_isoText_of_year nonneg fourDigits] at unread
      cases unread

private theorem toJson_eq_string_iff {value : Value} {text : String} :
    value.toJson = .string text ↔ value = .string text := by
  cases value with
  | float number =>
    rw [toJson, floatToJson]
    split <;> simp
  | _ => simp [toJson]

theorem loneDate?_eq_some_iff {members : List (String × Json)} {instant : Instant} :
    loneDate? members = some instant ↔
      ∃ text, members = [(dateKey, .string text)] ∧ Instant.ofText? text = some instant := by
  constructor
  · intro found
    unfold loneDate? at found
    split at found
    · rename_i name text
      split at found
      · rename_i named
        exact ⟨text, by rw [named], found⟩
      · cases found
    · cases found
  · rintro ⟨text, rfl, read⟩
    rw [loneDate?_marker, read]

/-- An object has the JSON form of an instant exactly if it is a lone date key with a text that can
be read. -/
theorem loneDate?_toJsonFields_iff {fields : Document} {instant : Instant} :
    loneDate? (toJsonFields fields) = some instant ↔
      ∃ text, fields = [(dateKey, .string text)] ∧ Instant.ofText? text = some instant := by
  rw [loneDate?_eq_some_iff, toJsonFields_eq_map]
  refine exists_congr fun text => and_congr_left fun _ => ?_
  change Entries.mapValues toJson fields = _ ↔ _
  rw [Entries.mapValues_eq_singleton_iff]
  simp only [toJson_eq_string_iff, exists_eq_right]

theorem isLost_object_iff {fields : Document} :
    IsLost (.object fields) ↔ ∃ instant, loneDate? (toJsonFields fields) = some instant := by
  constructor
  · intro lost
    cases lost with
    | @marker text instant read => exact ⟨instant, loneDate?_toJsonFields_iff.mpr ⟨text, rfl, read⟩⟩
  · rintro ⟨instant, found⟩
    obtain ⟨text, rfl, read⟩ := loneDate?_toJsonFields_iff.mp found
    exact .marker read

/-! ## Kept values -/

theorem truncated_eq_self_iff {instant : Instant} :
    instant.truncated = instant ↔ instant.nanosecond % Nat.pow 10 6 = 0 := by
  have parts := Nat.div_add_mod instant.nanosecond (Nat.pow 10 6)
  rw [Nat.mul_comm, ← Instant.truncated_nanosecond] at parts
  constructor
  · intro same
    rw [same] at parts
    exact Nat.left_eq_add.mp parts.symm
  · intro whole
    rw [whole, Nat.add_zero] at parts
    exact Instant.ext (Instant.truncated_minute instant) parts

theorem isKept_iff_of_leaf {value : Value} (leaf : ∀ part, OccursIn part value → part = value) :
    IsKept value ↔ ¬value.IsLost := by
  constructor
  · intro kept
    exact kept value .self
  · intro whole part occurs
    rw [leaf part occurs]
    exact whole

theorem isKept_float_iff {number : Float} :
    IsKept (.float number) ↔ number.isFinite = true := by
  rw [isKept_iff_of_leaf (fun part occurs => by cases occurs; rfl), isFinite_eq_true_iff,
    not_iff_not]
  constructor
  · rintro ⟨lost⟩
    assumption
  · exact .number

theorem isKept_date_iff {instant : Instant} :
    IsKept (.date instant) ↔ (0 ≤ instant.year ∧ instant.year ≤ 9999) ∧
      instant.truncated = instant := by
  rw [isKept_iff_of_leaf (fun part occurs => by cases occurs; rfl), truncated_eq_self_iff]
  constructor
  · intro whole
    refine ⟨Classical.not_not.mp fun signed => whole (.signedYear signed), ?_⟩
    exact Classical.not_not.mp fun fine => whole (.fine fine)
  · rintro ⟨fourDigits, whole⟩ lost
    cases lost with
    | fine fine => exact fine whole
    | signedYear signed => exact signed fourDigits

theorem map_eq_self_iff {items : List Value} {change : Value → Value} :
    items.map change = items ↔ ∀ item ∈ items, change item = item := by
  have same := @List.map_inj_left _ _ items change id
  rwa [List.map_id] at same

/-- A value comes back from JSON exactly if no part of it is lost. -/
theorem throughJson_eq_self_iff (value : Value) : throughJson value = value ↔ value.IsKept := by
  induction value using nestedInduction with
  | null | bool | int | string =>
    refine iff_of_true rfl fun part occurs lost => ?_
    cases occurs
    cases lost
  | float number =>
    rw [throughJson_float, isKept_float_iff]
    split <;> simp_all
  | date instant =>
    rw [throughJson_date, isKept_date_iff]
    split
    · rename_i fourDigits
      simp [fourDigits]
    · rename_i signed
      simp [signed]
  | array items ih =>
    rw [throughJson_array, isKept_array_iff, Value.array.injEq, map_eq_self_iff]
    exact forall₂_congr ih
  | object fields ih =>
    rw [isKept_object_iff, isLost_object_iff]
    cases found : loneDate? (toJsonFields fields) with
    | some instant =>
      rw [throughJson_marker found]
      simp
    | none =>
      rw [throughJson_object found, Value.object.injEq, Entries.mapValues_eq_self_iff]
      simp only [reduceCtorEq, exists_false, not_false_iff, true_and]
      exact forall₂_congr ih

/-! ## Equality of values -/

private theorem sameItems_map_iff {items : List Value} {change : Value → Value} :
    sameItems (items.map change) items = true ↔ ∀ item ∈ items, (change item).same item = true := by
  induction items with
  | nil => simp [sameItems]
  | cons item rest ih =>
    rw [List.map_cons, sameItems, Bool.and_eq_true, ih, List.forall_mem_cons]

private theorem sameFields_eq_true_iff {lefts rights : Document} :
    sameFields lefts rights = true ↔
      ∀ field ∈ lefts, ∃ right, Entries.get? rights field.1 = some right ∧
        field.2.same right = true := by
  induction lefts with
  | nil => simp [sameFields]
  | cons field rest ih =>
    rw [sameFields, List.forall_mem_cons, ← ih]
    split
    · rename_i right found
      simp [found]
    · rename_i missing
      simp [missing]

private theorem sameFields_mapValues_iff {fields : Document} {change : Value → Value}
    (distinct : (Entries.names fields).Nodup) :
    sameFields (Entries.mapValues change fields) fields = true ↔
      ∀ field ∈ fields, (change field.2).same field.2 = true := by
  rw [sameFields_eq_true_iff, Entries.mapValues, List.forall_mem_map]
  refine forall₂_congr fun field member => ?_
  rw [Entries.get?_of_mem distinct member]
  simp

/-- On what comes back from JSON, equality of values and of numbers in them make no difference:
what is not a number does not come back. -/
theorem same_throughJson_iff {value : Value} (distinct : value.hasDistinctKeys = true) :
    (throughJson value).same value = true ↔ throughJson value = value := by
  induction value using nestedInduction with
  | null => exact iff_of_true rfl rfl
  | bool truth => exact iff_of_true (beq_self_eq_true truth) rfl
  | int number => exact iff_of_true (beq_self_eq_true number) rfl
  | string text => exact iff_of_true (beq_self_eq_true text) rfl
  | float number =>
    rw [throughJson_float]
    split
    · rename_i finite
      exact iff_of_true (beq_self_of_isFinite finite) rfl
    · simp [same]
  | date instant =>
    rw [throughJson_date]
    split <;> simp [same]
  | array items ih =>
    rw [throughJson_array, same, sameItems_map_iff, Value.array.injEq, map_eq_self_iff]
    have items := hasDistinctKeys_array_iff.mp distinct
    exact forall₂_congr fun item member => ih item member (items item member)
  | object fields ih =>
    cases found : loneDate? (toJsonFields fields) with
    | some instant => simp [throughJson_marker found, same]
    | none =>
      obtain ⟨names, values⟩ := hasDistinctKeys_object_iff.mp distinct
      have counted : ((Entries.mapValues throughJson fields).length == fields.length) = true := by
        rw [Entries.mapValues, List.length_map, beq_self_eq_true]
      rw [throughJson_object found, same, counted, Bool.true_and,
        sameFields_mapValues_iff names, Value.object.injEq, Entries.mapValues_eq_self_iff]
      exact forall₂_congr fun field member => ih field member (values field member)

/-! ## Values from JSON -/

/-- No object in the value looks like an instant. -/
def HasNoMarker (value : Value) : Prop :=
  ∀ fields, OccursIn (.object fields) value → loneDate? (toJsonFields fields) = none

theorem ofJson_eq_string_iff {json : Json} {text : String} :
    ofJson json = .string text ↔ json = .string text := by
  cases json with
  | object members =>
    rw [ofJson]
    split <;> simp
  | _ => simp [ofJson]

/-- A lone date key with a text is one already before its value is changed, where only texts are
changed to texts. -/
theorem loneDate?_mapValues {α : Type} {entries : Entries α} (change : α → Value) (spell : α → Json)
    (texts : ∀ source text, change source = .string text → spell source = .string text)
    (plain : loneDate? (Entries.mapValues spell entries) = none) :
    loneDate? (toJsonFields (Entries.mapValues change entries)) = none := by
  cases found : loneDate? (toJsonFields (Entries.mapValues change entries)) with
  | none => rfl
  | some instant =>
    obtain ⟨text, spelled, read⟩ := loneDate?_toJsonFields_iff.mp found
    obtain ⟨source, rfl, same⟩ := Entries.mapValues_eq_singleton_iff.mp spelled
    have lone : loneDate? (Entries.mapValues spell [(dateKey, source)]) = some instant := by
      rw [loneDate?_eq_some_iff]
      exact ⟨text, by rw [← texts source text same]; rfl, read⟩
    rw [lone] at plain
    cases plain

theorem hasNoMarker_ofJson (json : Json) : (ofJson json).HasNoMarker := by
  induction json using Json.nestedInduction with
  | null | bool | int | float | string =>
    intro fields occurs
    cases occurs
  | array items ih =>
    intro fields occurs
    rw [ofJson, ofJsonItems_eq_map] at occurs
    cases occurs with
    | item member inside =>
      obtain ⟨item, source, rfl⟩ := List.mem_map.mp member
      exact ih item source fields inside
  | object members ih =>
    intro fields occurs
    rw [ofJson] at occurs
    split at occurs
    · cases occurs
    · rename_i object
      rw [ofJsonMembers_eq_map] at occurs
      cases occurs with
      | self =>
        have unchanged : Entries.mapValues id members = members :=
          Entries.mapValues_eq_self_iff.mpr fun _ _ => rfl
        rw [← unchanged] at object
        exact loneDate?_mapValues ofJson id (fun source text => ofJson_eq_string_iff.mp) object
      | field member inside =>
        obtain ⟨source, given, rfl⟩ := List.mem_map.mp member
        exact ih source given fields inside

/-- What is lost of a value without markers is lost at once. -/
theorem isKept_throughJson {value : Value} (unmarked : value.HasNoMarker) :
    (throughJson value).IsKept := by
  induction value using nestedInduction with
  | null | bool | int | string =>
    intro part occurs lost
    cases occurs
    cases lost
  | float number =>
    rw [throughJson_float]
    split
    · rename_i finite
      exact isKept_float_iff.mpr finite
    · exact (throughJson_eq_self_iff .null).mp rfl
  | date instant =>
    rw [throughJson_date]
    split
    · rename_i fourDigits
      exact isKept_date_iff.mpr ⟨fourDigits, Instant.truncated_truncated instant⟩
    · rename_i signed
      -- The text is no instant, so the object that is left of the date is read as it stands.
      have unread := Instant.ofText?_isoText_eq_none signed
      rw [isKept_object_iff, isLost_object_iff]
      constructor
      · rintro ⟨read, found⟩
        rw [toJsonFields_eq_map] at found
        exact absurd (unread.symm.trans ((loneDate?_marker _).symm.trans found)) (by simp)
      · rw [List.forall_mem_singleton]
        exact (throughJson_eq_self_iff (.string instant.isoText)).mp rfl
  | array items ih =>
    rw [throughJson_array, isKept_array_iff, List.forall_mem_map]
    intro item member
    exact ih item member fun fields occurs => unmarked fields (.item member occurs)
  | object fields ih =>
    have object := unmarked fields .self
    -- A text comes only from a text, so no field becomes what makes a marker of its object.
    have texts (field : Value) (text : String) (same : throughJson field = .string text) :
        field.toJson = .string text := ofJson_eq_string_iff.mp same
    have plain : loneDate? (Entries.mapValues toJson fields) = none := by
      rw [← object, toJsonFields_eq_map]
      rfl
    rw [throughJson_object object, isKept_object_iff, isLost_object_iff,
      loneDate?_mapValues throughJson toJson texts plain]
    refine ⟨by simp, ?_⟩
    rw [Entries.mapValues, List.forall_mem_map]
    intro field member
    exact ih field member fun inner occurs => unmarked inner (.field member occurs)

/-! ## Main result -/

/-- A value from JSON is settled after one way through JSON. Any value comes back exactly if no part
of it is lost, also where numbers are compared as numbers and objects as maps. -/
theorem throughJson_roundTrip :
    (∀ json, throughJson (throughJson (ofJson json)) = throughJson (ofJson json)) ∧
      ∀ value, (throughJson value = value ↔ ∀ part, OccursIn part value → ¬part.IsLost) ∧
        (value.hasDistinctKeys = true →
          ((throughJson value == value) = true ↔ ∀ part, OccursIn part value → ¬part.IsLost)) := by
  constructor
  · intro json
    have kept := isKept_throughJson (hasNoMarker_ofJson json)
    exact (throughJson_eq_self_iff _).mpr kept
  · intro value
    have settled := throughJson_eq_self_iff value
    exact ⟨settled, fun distinct => (same_throughJson_iff distinct).trans settled⟩

end Value

end UniversalQuery
