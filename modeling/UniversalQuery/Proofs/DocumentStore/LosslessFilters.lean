import UniversalQuery.Proofs.DocumentStore.KeptEntries
import UniversalQuery.Proofs.ValueRoundTrip

set_option autoImplicit false

/-! Conditions with the same filter. Where no key starts with a dollar sign, what filters add cannot
be taken for what they copy, so a filter determines its condition up to the JSON form of values. -/

namespace UniversalQuery

/-! ## Dollar signs -/

/-- No key of an object in the value starts with a dollar sign. -/
def Value.IsDollarFree (value : Value) : Prop :=
  ∀ fields, Value.OccursIn (.object fields) value →
    ∀ field ∈ fields, field.1.toList.head? ≠ some '$'

theorem Value.isDollarFree_array_iff {items : List Value} :
    (Value.array items).IsDollarFree ↔ ∀ item ∈ items, item.IsDollarFree := by
  constructor
  · exact fun free item member fields inside => free fields (.item member inside)
  · intro free fields occurs
    cases occurs with
    | item member inside => exact free _ member fields inside

theorem Value.isDollarFree_object_iff {fields : Document} :
    (Value.object fields).IsDollarFree ↔
      (∀ field ∈ fields, field.1.toList.head? ≠ some '$') ∧
        ∀ field ∈ fields, field.2.IsDollarFree := by
  constructor
  · intro free
    exact ⟨free fields .self, fun field member others inside => free others (.field member inside)⟩
  · rintro ⟨keys, values⟩ others occurs
    cases occurs with
    | self => exact keys
    | field member inside => exact values _ member others inside

/-- The keys of every object in the value are distinct and without a dollar sign at the start. -/
structure Value.HasPlainKeys (value : Value) : Prop where
  distinct : value.hasDistinctKeys = true
  dollarFree : value.IsDollarFree

theorem Value.hasPlainKeys_array_iff {items : List Value} :
    (Value.array items).HasPlainKeys ↔ ∀ item ∈ items, item.HasPlainKeys := by
  constructor
  · rintro ⟨distinct, free⟩ item member
    exact ⟨hasDistinctKeys_array_iff.mp distinct item member,
      isDollarFree_array_iff.mp free item member⟩
  · intro plain
    exact ⟨hasDistinctKeys_array_iff.mpr fun item member => (plain item member).distinct,
      isDollarFree_array_iff.mpr fun item member => (plain item member).dollarFree⟩

theorem Value.HasPlainKeys.cons {key : String} {value : Value} {rest : Document}
    (plain : (Value.object ((key, value) :: rest)).HasPlainKeys) :
    key.toList.head? ≠ some '$' ∧ value.HasPlainKeys ∧ (Value.object rest).HasPlainKeys := by
  obtain ⟨names, values⟩ := hasDistinctKeys_object_iff.mp plain.distinct
  obtain ⟨keys, parts⟩ := isDollarFree_object_iff.mp plain.dollarFree
  obtain ⟨headValue, tailValues⟩ := List.forall_mem_cons.mp values
  obtain ⟨headKey, tailKeys⟩ := List.forall_mem_cons.mp keys
  obtain ⟨headPart, tailParts⟩ := List.forall_mem_cons.mp parts
  rw [Entries.names_cons] at names
  exact ⟨headKey, ⟨headValue, headPart⟩,
    ⟨hasDistinctKeys_object_iff.mpr ⟨names.of_cons, tailValues⟩,
      isDollarFree_object_iff.mpr ⟨tailKeys, tailParts⟩⟩⟩

namespace DocumentStore

/-! ## Conditions that ask for the same -/

def isRangeValue : Value → Bool
  | .object fields => isRange fields
  | _ => false

/-- Two ranges with the same operators in the same order. -/
def SameBounds (left right : Document) : Prop :=
  List.Forall₂ (fun bound other => bound.1 = other.1 ∧ bound.2.toJson = other.2.toJson) left right

/-- Two operands of a field that are both ranges with the same operators, or both no ranges. -/
inductive SameOperand : Value → Value → Prop where
  | range {left right : Document} :
      isRange left = true → isRange right = true → SameBounds left right →
      SameOperand (.object left) (.object right)
  | whole {left right : Value} :
      isRangeValue left = false → isRangeValue right = false → left.toJson = right.toJson →
      SameOperand left right

mutual

/-- Two values that ask for the same under one key. -/
inductive SameEntry : String → Value → Value → Prop where
  | field {key : String} {left right : Value} :
      BooleanOperator.ofKey? key = none → SameOperand left right → SameEntry key left right
  | operator {key : String} {operator : BooleanOperator} {lefts rights : List Value} :
      BooleanOperator.ofKey? key = some operator → SameMembers lefts rights →
      SameEntry key (.array lefts) (.array rights)

inductive SameMembers : List Value → List Value → Prop where
  | nil : SameMembers [] []
  | cons {left right : Document} {lefts rights : List Value} :
      SameCondition left right → SameMembers lefts rights →
      SameMembers (.object left :: lefts) (.object right :: rights)

/-- Two conditions with the same keys in the same order, at every depth of operators, whose ranges
have the same operators and whose values have the same JSON form. -/
inductive SameCondition : List (String × Value) → List (String × Value) → Prop where
  | nil : SameCondition [] []
  | cons {key : String} {left right : Value} {lefts rights : List (String × Value)} :
      SameEntry key left right → SameCondition lefts rights →
      SameCondition ((key, left) :: lefts) ((key, right) :: rights)

end

/-! ## Operands -/

theorem operand_range {fields : Document} (range : isRange fields = true) :
    operand (.object fields) =
      .object (fields.map fun field => (operatorKey field.1, field.2.toJson)) := by
  rw [operand, if_pos range]

private theorem operand_whole {value : Value} (whole : isRangeValue value = false) :
    operand value = value.toJson := by
  cases value with
  | object fields =>
    rw [isRangeValue] at whole
    rw [operand, if_neg (by simp [whole])]
  | _ => rfl

private theorem exists_of_isRange {fields : Document} (range : isRange fields = true) :
    ∃ (operator : ComparisonOperator) (bound : Value) (rest : Document),
      fields = (operator.key, bound) :: rest := by
  cases fields with
  | nil => cases range
  | cons field rest =>
    obtain ⟨key, bound⟩ := field
    simp only [isRange, List.isEmpty_cons, Bool.not_false, Bool.true_and, List.all_cons,
      Bool.and_eq_true] at range
    obtain ⟨operator, named⟩ := Option.isSome_iff_exists.mp range.1
    rw [← ComparisonOperator.key_of_ofKey? named]
    exact ⟨operator, bound, rest, rfl⟩

/-- An instant is an object with a dollar sign too, but it is not taken for a bound. -/
theorem operand_range_ne_toJson {fields : Document} {value : Value}
    (range : isRange fields = true) (free : value.IsDollarFree) :
    operand (.object fields) ≠ value.toJson := by
  rw [operand_range range]
  obtain ⟨operator, bound, rest, rfl⟩ := exists_of_isRange range
  intro same
  cases value with
  | object others =>
    cases others with
    | nil => simp [Value.toJson, Value.toJsonFields] at same
    | cons field others =>
      have first := (Value.isDollarFree_object_iff.mp free).1 field List.mem_cons_self
      simp only [List.map_cons, Value.toJson, Value.toJsonFields, Json.object.injEq,
        List.cons.injEq, Prod.mk.injEq] at same
      exact first (same.1.1 ▸ head?_operatorKey operator.key)
  | date instant =>
    simp only [List.map_cons, Value.toJson, Json.object.injEq, List.cons.injEq, Prod.mk.injEq]
      at same
    have marker := same.1.1
    revert marker
    cases operator <;> decide
  | float number =>
    rw [Value.toJson, Value.floatToJson] at same
    split at same <;> cases same
  | _ => simp [Value.toJson] at same

private theorem operand_range_eq_iff {left right : Document} (range : isRange left = true)
    (ranges : isRange right = true) :
    operand (.object left) = operand (.object right) ↔ SameBounds left right := by
  rw [operand_range range, operand_range ranges, Json.object.injEq, ← List.forall₂_eq_eq_eq,
    List.forall₂_map_left_iff, List.forall₂_map_right_iff]
  simp only [Prod.mk.injEq, operatorKey_inj, SameBounds]

private theorem isRangeValue_eq_true_iff {value : Value} :
    isRangeValue value = true ↔ ∃ fields, value = .object fields ∧ isRange fields = true := by
  cases value <;> simp [isRangeValue]

theorem SameOperand.isRangeValue_eq {left right : Value} (same : SameOperand left right) :
    isRangeValue left = isRangeValue right := by
  cases same with
  | range range ranges _ => rw [isRangeValue, isRangeValue, range, ranges]
  | whole whole wholes _ => rw [whole, wholes]

private theorem operand_eq_iff {left right : Value} (leftFree : left.IsDollarFree)
    (rightFree : right.IsDollarFree) :
    operand left = operand right ↔ SameOperand left right := by
  cases leftRange : isRangeValue left with
  | true =>
    obtain ⟨bounds, rfl, range⟩ := isRangeValue_eq_true_iff.mp leftRange
    cases rightRange : isRangeValue right with
    | true =>
      obtain ⟨others, rfl, ranges⟩ := isRangeValue_eq_true_iff.mp rightRange
      rw [operand_range_eq_iff range ranges]
      refine ⟨.range range ranges, fun same => ?_⟩
      cases same with
      | range _ _ bounds => exact bounds
      | whole no _ _ => simp [leftRange] at no
    | false =>
      rw [operand_whole rightRange]
      refine iff_of_false (operand_range_ne_toJson range rightFree) fun same => ?_
      simpa [leftRange, rightRange] using same.isRangeValue_eq
  | false =>
    cases rightRange : isRangeValue right with
    | true =>
      obtain ⟨others, rfl, ranges⟩ := isRangeValue_eq_true_iff.mp rightRange
      rw [operand_whole leftRange]
      refine iff_of_false (operand_range_ne_toJson ranges leftFree).symm fun same => ?_
      simpa [leftRange, rightRange] using same.isRangeValue_eq
    | false =>
      rw [operand_whole leftRange, operand_whole rightRange]
      refine ⟨.whole leftRange rightRange, fun same => ?_⟩
      cases same with
      | range range _ _ => simp [isRangeValue, range] at leftRange
      | whole _ _ same => exact same

/-! ## Filters -/

/-- The entries of a filter stay apart if the keys of its condition have no dollar sign. -/
theorem ofPairs_filterEntries {fields : Document} {entries : List (String × Json)}
    (keys : (Value.object fields).HasPlainKeys) (accepted : filterEntries fields = .ok entries) :
    Entries.ofPairs entries = entries := by
  refine Entries.ofPairs_of_nodup ?_
  rw [names_filterEntries accepted]
  have plain := (Value.isDollarFree_object_iff.mp keys.dollarFree).1
  exact nodup_filterKeys (Value.hasDistinctKeys_object_iff.mp keys.distinct).1
    (List.forall_mem_map.mpr plain)

mutual

theorem filterEntry_eq_iff (key : String) : (left right : Value) →
    {entry other : String × Json} → left.HasPlainKeys → right.HasPlainKeys →
    filterEntry key left = .ok entry → filterEntry key right = .ok other →
    (entry = other ↔ SameEntry key left right)
  | left, right, entry, other, leftKeys, rightKeys, filtered, filteredOther => by
    cases named : BooleanOperator.ofKey? key with
    | none =>
      rw [filterEntry_field named] at filtered filteredOther
      cases filtered
      cases filteredOther
      rw [Prod.mk.injEq, eq_self, true_and,
        operand_eq_iff leftKeys.dollarFree rightKeys.dollarFree]
      refine ⟨.field named, fun same => ?_⟩
      cases same with
      | field _ same => exact same
      | operator another _ => rw [named] at another; cases another
    | some operator =>
      obtain ⟨lefts, filters, rfl, members, rfl⟩ := filterEntry_operator_ok named filtered
      obtain ⟨rights, others, rfl, membersOther, rfl⟩ :=
        filterEntry_operator_ok named filteredOther
      rw [Prod.mk.injEq, eq_self, true_and, Json.array.injEq,
        filterItems_eq_iff lefts rights (Value.hasPlainKeys_array_iff.mp leftKeys)
          (Value.hasPlainKeys_array_iff.mp rightKeys) members membersOther]
      refine ⟨.operator named, fun same => ?_⟩
      cases same with
      | field isField _ => rw [named] at isField; cases isField
      | operator _ same => exact same
termination_by left => sizeOf left

theorem filterItems_eq_iff {operator : BooleanOperator} : (lefts rights : List Value) →
    {filters others : List Json} → (∀ item ∈ lefts, item.HasPlainKeys) →
    (∀ item ∈ rights, item.HasPlainKeys) → filterItems operator lefts = .ok filters →
    filterItems operator rights = .ok others → (filters = others ↔ SameMembers lefts rights)
  | [], [], _, _, _, _, filtered, filteredOther => by
    cases filtered
    cases filteredOther
    exact iff_of_true rfl .nil
  | [], right :: rights, _, _, _, _, filtered, filteredOther => by
    cases filtered
    obtain ⟨_, _, _, _, _, _, rfl⟩ := filterItems_cons filteredOther
    exact iff_of_false (List.cons_ne_nil _ _).symm (fun same => by cases same)
  | left :: lefts, [], _, _, _, _, filtered, filteredOther => by
    obtain ⟨_, _, _, _, _, _, rfl⟩ := filterItems_cons filtered
    cases filteredOther
    exact iff_of_false (List.cons_ne_nil _ _) (fun same => by cases same)
  | left :: lefts, right :: rights, _, _, leftKeys, rightKeys, filtered, filteredOther => by
    obtain ⟨left, entries, filters, rfl, first, later, rfl⟩ := filterItems_cons filtered
    obtain ⟨right, entriesOther, others, rfl, firstOther, laterOther, rfl⟩ :=
      filterItems_cons filteredOther
    obtain ⟨leftHead, leftTail⟩ := List.forall_mem_cons.mp leftKeys
    obtain ⟨rightHead, rightTail⟩ := List.forall_mem_cons.mp rightKeys
    rw [ofPairs_filterEntries leftHead first, ofPairs_filterEntries rightHead firstOther,
      List.cons.injEq, Json.object.injEq,
      filterEntries_eq_iff left right leftHead rightHead first firstOther,
      filterItems_eq_iff lefts rights leftTail rightTail later laterOther]
    refine ⟨fun same => .cons same.1 same.2, fun same => ?_⟩
    cases same with
    | cons head tail => exact ⟨head, tail⟩
termination_by lefts => sizeOf lefts

theorem filterEntries_eq_iff : (left right : List (String × Value)) →
    {entries others : List (String × Json)} → (Value.object left).HasPlainKeys →
    (Value.object right).HasPlainKeys → filterEntries left = .ok entries →
    filterEntries right = .ok others → (entries = others ↔ SameCondition left right)
  | [], [], _, _, _, _, filtered, filteredOther => by
    cases filtered
    cases filteredOther
    exact iff_of_true rfl .nil
  | [], (_, _) :: _, _, _, _, _, filtered, filteredOther => by
    cases filtered
    obtain ⟨_, _, _, _, rfl⟩ := filterEntries_cons filteredOther
    exact iff_of_false (List.cons_ne_nil _ _).symm (fun same => by cases same)
  | (_, _) :: _, [], _, _, _, _, filtered, filteredOther => by
    obtain ⟨_, _, _, _, rfl⟩ := filterEntries_cons filtered
    cases filteredOther
    exact iff_of_false (List.cons_ne_nil _ _) (fun same => by cases same)
  | (key, left) :: lefts, (name, right) :: rights, _, _, leftKeys, rightKeys, filtered,
      filteredOther => by
    obtain ⟨entry, entries, first, later, rfl⟩ := filterEntries_cons filtered
    obtain ⟨other, others, firstOther, laterOther, rfl⟩ := filterEntries_cons filteredOther
    obtain ⟨leftPlain, leftHead, leftTail⟩ := leftKeys.cons
    obtain ⟨rightPlain, rightHead, rightTail⟩ := rightKeys.cons
    rw [List.cons.injEq, filterEntries_eq_iff lefts rights leftTail rightTail later laterOther]
    constructor
    · rintro ⟨rfl, rest⟩
      have spelled := (fst_of_filterEntry first).symm.trans (fst_of_filterEntry firstOther)
      obtain rfl := filterKey_injective leftPlain rightPlain spelled
      exact .cons ((filterEntry_eq_iff key left right leftHead rightHead first firstOther).mp rfl)
        rest
    · intro same
      cases same with
      | cons head tail =>
        exact ⟨(filterEntry_eq_iff key left right leftHead rightHead first firstOther).mpr head,
          tail⟩
termination_by left => sizeOf left

end

/-! ## Values that JSON keeps -/

theorem eq_of_toJson_eq {left right : Value} (leftKept : left.IsKept) (rightKept : right.IsKept)
    (same : left.toJson = right.toJson) : left = right := by
  rw [← (Value.throughJson_eq_self_iff left).mpr leftKept,
    ← (Value.throughJson_eq_self_iff right).mpr rightKept, Value.throughJson, Value.throughJson,
    same]

theorem SameBounds.eq {left right : Document} (same : SameBounds left right)
    (leftKept : ∀ bound ∈ left, bound.2.IsKept) (rightKept : ∀ bound ∈ right, bound.2.IsKept) :
    left = right := by
  induction same with
  | nil => rfl
  | cons head tail ih =>
    obtain ⟨leftHead, leftTail⟩ := List.forall_mem_cons.mp leftKept
    obtain ⟨rightHead, rightTail⟩ := List.forall_mem_cons.mp rightKept
    rw [Prod.ext head.1 (eq_of_toJson_eq leftHead rightHead head.2), ih leftTail rightTail]

theorem SameOperand.eq {left right : Value} (same : SameOperand left right)
    (leftKept : left.IsKept) (rightKept : right.IsKept) : left = right := by
  cases same with
  | range _ _ bounds =>
    rw [bounds.eq (Value.isKept_object_iff.mp leftKept).2 (Value.isKept_object_iff.mp rightKept).2]
  | whole _ _ same => exact eq_of_toJson_eq leftKept rightKept same

mutual

theorem SameEntry.eq {key : String} {left right : Value} :
    SameEntry key left right → left.IsKept → right.IsKept → left = right
  | .field _ same, leftKept, rightKept => same.eq leftKept rightKept
  | .operator _ same, leftKept, rightKept => by
    rw [SameMembers.eq same (Value.isKept_array_iff.mp leftKept)
      (Value.isKept_array_iff.mp rightKept)]

theorem SameMembers.eq {lefts rights : List Value} :
    SameMembers lefts rights → (∀ item ∈ lefts, item.IsKept) → (∀ item ∈ rights, item.IsKept) →
    lefts = rights
  | .nil, _, _ => rfl
  | .cons same rest, leftKept, rightKept => by
    obtain ⟨leftHead, leftTail⟩ := List.forall_mem_cons.mp leftKept
    obtain ⟨rightHead, rightTail⟩ := List.forall_mem_cons.mp rightKept
    rw [SameCondition.eq same (Value.isKept_object_iff.mp leftHead).2
      (Value.isKept_object_iff.mp rightHead).2, SameMembers.eq rest leftTail rightTail]

theorem SameCondition.eq {left right : List (String × Value)} :
    SameCondition left right → (∀ field ∈ left, field.2.IsKept) →
    (∀ field ∈ right, field.2.IsKept) → left = right
  | .nil, _, _ => rfl
  | .cons same rest, leftKept, rightKept => by
    obtain ⟨leftHead, leftTail⟩ := List.forall_mem_cons.mp leftKept
    obtain ⟨rightHead, rightTail⟩ := List.forall_mem_cons.mp rightKept
    rw [SameEntry.eq same leftHead rightHead, SameCondition.eq rest leftTail rightTail]

end

/-- Conditions have the same filter exactly if they ask for the same, and then they differ only in
values that JSON has no form of their own for. -/
theorem filters_tell_conditions_apart {left right : Document} {filtered other : Entries Json}
    (leftKeys : (Value.object left).HasPlainKeys) (rightKeys : (Value.object right).HasPlainKeys)
    (accepted : filter left = .ok filtered) (acceptedOther : filter right = .ok other) :
    (filtered = other ↔ SameCondition left right) ∧
    ((Value.object left).IsKept → (Value.object right).IsKept → left ≠ right →
      filtered ≠ other) := by
  obtain ⟨entries, first, rfl⟩ := exists_of_map_eq_ok accepted
  obtain ⟨others, second, rfl⟩ := exists_of_map_eq_ok acceptedOther
  rw [ofPairs_filterEntries leftKeys first, ofPairs_filterEntries rightKeys second]
  have determined := filterEntries_eq_iff left right leftKeys rightKeys first second
  refine ⟨determined, fun leftKept rightKept distinct same => distinct ?_⟩
  exact (determined.mp same).eq (Value.isKept_object_iff.mp leftKept).2
    (Value.isKept_object_iff.mp rightKept).2

def epoch : Instant := ⟨0, 0, by decide⟩

def afterEpoch : Instant := ⟨0, 1, by decide⟩

/-- People by the name of Jon, or born before an instant. -/
def jonsOrElders (instant : Instant) : Document :=
  [("or", .array [.object [("name", .string "Jon")],
    .object [("born", .object [("lt", .date instant)])]])]

/-- People older than thirty, or at least thirty. -/
def aged (operator : ComparisonOperator) : Document :=
  [("age", .object [(operator.key, .int 30)])]

/-- A nanosecond has no JSON form, and an operator has one. -/
theorem filters_tell_conditions_apart_people :
    (∃ filtered, filter (jonsOrElders epoch) = .ok filtered ∧
      filter (jonsOrElders afterEpoch) = .ok filtered ∧
      SameCondition (jonsOrElders epoch) (jonsOrElders afterEpoch)) ∧
    filter (aged .gt) ≠ filter (aged .gte) := by
  constructor
  · have plain (instant : Instant) : (Value.object (jonsOrElders instant)).HasPlainKeys := by
      have name : (Value.string "Jon").IsDollarFree := fun _ occurs => by cases occurs
      have date : (Value.date instant).IsDollarFree := fun _ occurs => by cases occurs
      refine ⟨rfl, ?_⟩
      simp [jonsOrElders, Value.isDollarFree_object_iff, Value.isDollarFree_array_iff, name, date]
    have accepted : filter (jonsOrElders epoch) = .ok _ := rfl
    have acceptedLater : filter (jonsOrElders afterEpoch) = .ok _ := rfl
    have determined :=
      (filters_tell_conditions_apart (plain epoch) (plain afterEpoch) accepted acceptedLater).1
    exact ⟨_, accepted, acceptedLater, determined.mp rfl⟩
  · have plain (operator : ComparisonOperator) : (Value.object (aged operator)).HasPlainKeys := by
      have bound : (Value.int 30).IsDollarFree := fun _ occurs => by cases occurs
      cases operator <;> refine ⟨rfl, ?_⟩ <;>
        simp [aged, ComparisonOperator.key, Value.isDollarFree_object_iff, bound]
    have kept (operator : ComparisonOperator) : (Value.object (aged operator)).IsKept := by
      refine (Value.throughJson_eq_self_iff _).mp ?_
      cases operator <;> rfl
    have accepted : filter (aged .gt) = .ok _ := rfl
    have acceptedOther : filter (aged .gte) = .ok _ := rfl
    have distinct : aged .gt ≠ aged .gte := by simp [aged, ComparisonOperator.key]
    have apart := (filters_tell_conditions_apart (plain .gt) (plain .gte) accepted acceptedOther).2
      (kept .gt) (kept .gte) distinct
    exact fun same => apart (Except.ok.inj (accepted.symm.trans (same.trans acceptedOther)))

end DocumentStore

end UniversalQuery
