import UniversalQuery.Proofs.Sql.Meaning

set_option autoImplicit false

/-! The grammar of conditions. Compiling accepts exactly the documents of the grammar. In any other
document it reports the first place that breaks the grammar, in depth-first key order: all that comes
before that place is well formed. -/

namespace UniversalQuery.Sql

variable {schema : Schema} {policy : UnknownFields} {key : String}

/-! ## The grammar -/

/-- A key that refers to a field, and to the whole of it. -/
structure IsWholeField (key : String) : Prop where
  isField : ∀ operator : BooleanOperator, key ≠ operator.key
  plain : '.' ∉ key.toList

def AreBounds (fields : Document) : Prop :=
  ∀ field ∈ fields, ∃ operator : ComparisonOperator, field.1 = operator.key

inductive WellFormedEntry (schema : Schema) : String × Value → Prop where
  | joined (operator : BooleanOperator) {members : List Document} :
      (∀ member ∈ members, ∀ entry ∈ member, WellFormedEntry schema entry) →
      WellFormedEntry schema (operator.key, .array (members.map Value.object))
  | path {key : String} {value : Value} :
      '.' ∈ key.toList → (schema.fieldType? (rootField key)).isSome = true →
      WellFormedEntry schema (key, value)
  | json {key : String} {value : Value} :
      IsWholeField key → schema.fieldType? key = some .json →
      WellFormedEntry schema (key, value)
  | scalar {key : String} {value : Value} {type : FieldType} :
      IsWholeField key → schema.fieldType? key = some type → type ≠ .json →
      value.asDocument? = none →
      WellFormedEntry schema (key, value)
  | range {key : String} {fields : Document} {type : FieldType} :
      IsWholeField key → schema.fieldType? key = some type → type ≠ .json →
      AreBounds fields →
      WellFormedEntry schema (key, .object fields)

def WellFormed (schema : Schema) (document : Document) : Prop :=
  ∀ entry ∈ document, WellFormedEntry schema entry

/-- The first place in an entry that breaks the grammar, as the error that reports it. A member that
is no object is reported only if all members before it are well formed. -/
inductive Offends (schema : Schema) : String × Value → CompileError → Prop where
  | unknown {key : String} {value : Value} :
      (∀ operator : BooleanOperator, key ≠ operator.key) →
      schema.fieldType? (rootField key) = none →
      Offends schema (key, value) (.unresolvableField key)
  | comparison {key : String} {type : FieldType} {before after : Document} {name : String}
      {bound : Value} :
      IsWholeField key → schema.fieldType? key = some type → type ≠ .json →
      AreBounds before → (∀ operator : ComparisonOperator, name ≠ operator.key) →
      Offends schema (key, .object (before ++ (name, bound) :: after)) (.unknownOperator key name)
  | operand (operator : BooleanOperator) {value : Value} :
      (∀ items, value ≠ .array items) →
      Offends schema (operator.key, value) (.invalidBooleanOperand operator)
  | member (operator : BooleanOperator) {before : List Document} {item : Value}
      {after : List Value} :
      (∀ member ∈ before, WellFormed schema member) → item.asDocument? = none →
      Offends schema (operator.key, .array (before.map Value.object ++ item :: after))
        (.invalidBooleanOperand operator)
  | within (operator : BooleanOperator) {before : List Document} {earlier later : Document}
      {entry : String × Value} {after : List Value} {error : CompileError} :
      (∀ member ∈ before, WellFormed schema member) → WellFormed schema earlier →
      Offends schema entry error →
      Offends schema
        (operator.key,
          .array (before.map Value.object ++ .object (earlier ++ entry :: later) :: after))
        error

/-- The first place in a document that breaks the grammar. -/
def FirstOffence (schema : Schema) (document : Document) (error : CompileError) : Prop :=
  ∃ earlier entry later, document = earlier ++ entry :: later ∧ WellFormed schema earlier ∧
    Offends schema entry error

def AreMembers (schema : Schema) (items : List Value) : Prop :=
  ∃ members : List Document, items = members.map Value.object ∧
    ∀ member ∈ members, WellFormed schema member

/-- A member that is no object or has an offence in it, after well-formed ones. -/
def HasBadMember (schema : Schema) (items : List Value) : Prop :=
  ∃ (before : List Document) (item : Value) (after : List Value),
    items = before.map Value.object ++ item :: after ∧
    (∀ member ∈ before, WellFormed schema member) ∧
    (item.asDocument? = none ∨
      ∃ fields error, item = .object fields ∧ FirstOffence schema fields error)

/-! ## Entries on fields -/

private theorem classifyField_unknown (unknown : schema.fieldType? (rootField key) = none)
    (value : Value) :
    classifyField schema .reject key value = .error (.unresolvableField key) := by
  rw [rootField] at unknown
  simp [classifyField, unknown, unknownField]

private theorem classifyField_path (dotted : '.' ∈ key.toList)
    (known : (schema.fieldType? (rootField key)).isSome = true) (value : Value) :
    classifyField schema policy key value =
      .ok (some (.jsonPath (FieldPath.ofKey key) value)) := by
  obtain ⟨type, typed⟩ := Option.isSome_iff_exists.mp known
  rw [rootField] at typed
  simp [classifyField, typed, FieldPath.isPlain_eq_false_iff.mpr dotted]

theorem classifyField_json (plain : '.' ∉ key.toList)
    (known : schema.fieldType? key = some .json) (value : Value) :
    classifyField schema policy key value = .ok (some (.containment key value)) := by
  have whole := FieldPath.isPlain_iff.mpr plain
  simp [classifyField, FieldPath.root_of_isPlain whole, known, whole]

theorem classifyField_scalar {type : FieldType} {value : Value} (plain : '.' ∉ key.toList)
    (known : schema.fieldType? key = some type) (scalar : type ≠ .json)
    (noObject : value.asDocument? = none) :
    classifyField schema policy key value = .ok (some (.equality key type value)) := by
  have whole := FieldPath.isPlain_iff.mpr plain
  cases value with
  | object fields => cases noObject
  | _ => simp [classifyField, FieldPath.root_of_isPlain whole, known, whole, scalar]

theorem classifyField_object {type : FieldType} (plain : '.' ∉ key.toList)
    (known : schema.fieldType? key = some type) (scalar : type ≠ .json) (fields : Document) :
    classifyField schema policy key (.object fields) =
      (rangeBounds key fields).map fun bounds => some (.range key type bounds) := by
  have whole := FieldPath.isPlain_iff.mpr plain
  simp only [classifyField, FieldPath.root_of_isPlain whole, known, whole, scalar, Bool.not_true,
    Bool.false_eq_true, ↓reduceIte]
  cases rangeBounds key fields <;> rfl

private theorem exists_rangeBounds (key : String) {fields : Document} (bounded : AreBounds fields) :
    ∃ bounds, rangeBounds key fields = .ok bounds := by
  induction fields with
  | nil => exact ⟨[], rfl⟩
  | cons field rest ih =>
    obtain ⟨name, bound⟩ := field
    obtain ⟨operator, same⟩ := bounded (name, bound) List.mem_cons_self
    obtain ⟨bounds, ranged⟩ := ih fun other member => bounded other (List.mem_cons_of_mem _ member)
    dsimp only at same
    subst same
    rw [rangeBounds, ComparisonOperator.ofKey?_key, ranged]
    exact ⟨_, rfl⟩

private theorem rangeBounds_append_error {before after : Document} {name : String} {bound : Value}
    (bounded : AreBounds before) (other : ∀ operator : ComparisonOperator, name ≠ operator.key) :
    rangeBounds key (before ++ (name, bound) :: after) = .error (.unknownOperator key name) := by
  induction before with
  | nil => rw [List.nil_append, rangeBounds, ComparisonOperator.ofKey?_eq_none_iff.mpr other]
  | cons field rest ih =>
    obtain ⟨first, value⟩ := field
    obtain ⟨operator, same⟩ := bounded (first, value) List.mem_cons_self
    have later := ih fun field member => bounded field (List.mem_cons_of_mem _ member)
    dsimp only at same
    subst same
    rw [List.cons_append, rangeBounds, ComparisonOperator.ofKey?_key, later]
    rfl

private theorem areBounds_or_first (fields : Document) :
    AreBounds fields ∨ ∃ before name bound after, fields = before ++ (name, bound) :: after ∧
      AreBounds before ∧ ∀ operator : ComparisonOperator, name ≠ operator.key := by
  induction fields with
  | nil => exact .inl fun _ member => absurd member List.not_mem_nil
  | cons field rest ih =>
    obtain ⟨name, bound⟩ := field
    cases named : ComparisonOperator.ofKey? name with
    | none =>
      exact .inr ⟨[], name, bound, rest, rfl, fun _ member => absurd member List.not_mem_nil,
        ComparisonOperator.ofKey?_eq_none_iff.mp named⟩
    | some operator =>
      have first : ∃ operator : ComparisonOperator, name = operator.key :=
        ⟨operator, (ComparisonOperator.key_of_ofKey? named).symm⟩
      rcases ih with bounded | ⟨before, other, value, after, rfl, bounded, stranger⟩
      · exact .inl (List.forall_mem_cons.mpr ⟨first, bounded⟩)
      · exact .inr ⟨(name, bound) :: before, other, value, after, rfl,
          List.forall_mem_cons.mpr ⟨first, bounded⟩, stranger⟩

/-! ## Lists of entries and of members -/

theorem exists_classify {document : Document}
    (accepted : ∀ entry ∈ document, ∃ condition,
      classifyEntry schema policy entry.1 entry.2 = .ok condition) :
    ∃ conditions, classify schema policy document = .ok conditions := by
  induction document with
  | nil => exact ⟨[], rfl⟩
  | cons entry rest ih =>
    obtain ⟨first, later⟩ := List.forall_mem_cons.mp accepted
    obtain ⟨condition, classified⟩ := first
    obtain ⟨conditions, others⟩ := ih later
    rw [classify, classified, others]
    exact ⟨_, rfl⟩

theorem exists_classifyGroups (operator : BooleanOperator) {members : List Document}
    (accepted : ∀ member ∈ members, ∃ conditions,
      classify schema policy member = .ok conditions) :
    ∃ groups, classifyGroups schema policy operator (members.map Value.object) = .ok groups := by
  induction members with
  | nil => exact ⟨[], rfl⟩
  | cons member rest ih =>
    obtain ⟨first, later⟩ := List.forall_mem_cons.mp accepted
    obtain ⟨conditions, classified⟩ := first
    obtain ⟨groups, others⟩ := ih later
    rw [List.map_cons, classifyGroups, classified, others]
    exact ⟨_, rfl⟩

/-- An error is the first one if all entries before it are accepted. -/
theorem classify_append_error {earlier later : Document} {conditions : List Condition}
    {error : CompileError} (accepted : classify schema policy earlier = .ok conditions)
    (fails : classify schema policy later = .error error) :
    classify schema policy (earlier ++ later) = .error error := by
  induction earlier generalizing conditions with
  | nil => exact fails
  | cons entry rest ih =>
    obtain ⟨condition, others, first, remaining, -⟩ := classify_cons accepted
    rw [List.cons_append, classify, first, ih remaining]
    rfl

private theorem classifyGroups_append_error {operator : BooleanOperator} {before : List Document}
    {items : List Value} {groups : List (List Condition)} {error : CompileError}
    (accepted : classifyGroups schema policy operator (before.map Value.object) = .ok groups)
    (fails : classifyGroups schema policy operator items = .error error) :
    classifyGroups schema policy operator (before.map Value.object ++ items) = .error error := by
  induction before generalizing groups with
  | nil => exact fails
  | cons member rest ih =>
    obtain ⟨fields, group, others, same, first, remaining, -⟩ := classifyGroups_cons accepted
    cases same
    rw [List.map_cons, List.cons_append, classifyGroups, first, ih remaining]
    rfl

theorem classifyEntry_groups (operator : BooleanOperator) (items : List Value) :
    classifyEntry schema policy operator.key (.array items) =
      (classifyGroups schema policy operator items).map fun groups =>
        some (.boolean operator groups) := by
  simp only [classifyEntry, BooleanOperator.ofKey?_key]
  cases classifyGroups schema policy operator items <;> rfl

/-! ## The grammar is accepted -/

theorem WellFormedEntry.accepted (policy : UnknownFields) {entry : String × Value}
    (wellFormed : WellFormedEntry schema entry) :
    ∃ condition, classifyEntry schema policy entry.1 entry.2 = .ok condition := by
  induction wellFormed with
  | joined operator _ ih =>
    obtain ⟨groups, classified⟩ := exists_classifyGroups operator fun member inside =>
      exists_classify (ih member inside)
    rw [classifyEntry_groups, classified]
    exact ⟨_, rfl⟩
  | @path key value dotted known =>
    have isField : BooleanOperator.ofKey? key = none := by
      refine BooleanOperator.ofKey?_eq_none_iff.mpr ?_
      rintro operator rfl
      cases operator <;> revert dotted <;> decide
    rw [classifyEntry_field isField, classifyField_path dotted known]
    exact ⟨_, rfl⟩
  | json whole known =>
    rw [classifyEntry_field (BooleanOperator.ofKey?_eq_none_iff.mpr whole.isField),
      classifyField_json whole.plain known]
    exact ⟨_, rfl⟩
  | scalar whole known scalar noObject =>
    rw [classifyEntry_field (BooleanOperator.ofKey?_eq_none_iff.mpr whole.isField),
      classifyField_scalar whole.plain known scalar noObject]
    exact ⟨_, rfl⟩
  | @range key fields type whole known scalar bounded =>
    obtain ⟨bounds, ranged⟩ := exists_rangeBounds key bounded
    rw [classifyEntry_field (BooleanOperator.ofKey?_eq_none_iff.mpr whole.isField),
      classifyField_object whole.plain known scalar, ranged]
    exact ⟨_, rfl⟩

theorem WellFormed.accepted (policy : UnknownFields) {document : Document}
    (wellFormed : WellFormed schema document) :
    ∃ conditions, classify schema policy document = .ok conditions :=
  exists_classify fun entry member => (wellFormed entry member).accepted policy

/-! ## Offences are reported -/

theorem classify_first_error {earlier later : Document} {entry : String × Value}
    {error : CompileError} (wellFormed : WellFormed schema earlier)
    (fails : classifyEntry schema policy entry.1 entry.2 = .error error) :
    classify schema policy (earlier ++ entry :: later) = .error error := by
  obtain ⟨conditions, accepted⟩ := wellFormed.accepted policy
  apply classify_append_error accepted
  rw [classify, fails]
  rfl

private theorem classifyGroups_first_error {operator : BooleanOperator} {before : List Document}
    {item : Value} {after : List Value} {error : CompileError}
    (wellFormed : ∀ member ∈ before, WellFormed schema member)
    (fails : classifyGroups schema policy operator (item :: after) = .error error) :
    classifyEntry schema policy operator.key (.array (before.map Value.object ++ item :: after)) =
      .error error := by
  obtain ⟨groups, accepted⟩ := exists_classifyGroups operator fun member inside =>
    (wellFormed member inside).accepted policy
  rw [classifyEntry_groups, classifyGroups_append_error accepted fails]
  rfl

theorem Offends.rejected {entry : String × Value} {error : CompileError}
    (offends : Offends schema entry error) :
    classifyEntry schema .reject entry.1 entry.2 = .error error := by
  induction offends with
  | @unknown key value isField unknown =>
    rw [classifyEntry_field (BooleanOperator.ofKey?_eq_none_iff.mpr isField)]
    exact classifyField_unknown unknown value
  | comparison whole known scalar bounded other =>
    rw [classifyEntry_field (BooleanOperator.ofKey?_eq_none_iff.mpr whole.isField),
      classifyField_object whole.plain known scalar, rangeBounds_append_error bounded other]
    rfl
  | @operand operator value noList =>
    cases value with
    | array items => exact absurd rfl (noList items)
    | _ => simp only [classifyEntry, BooleanOperator.ofKey?_key]
  | @member operator before item after wellFormed noObject =>
    apply classifyGroups_first_error wellFormed
    cases item with
    | object fields => cases noObject
    | _ => simp only [classifyGroups]
  | within operator wellFormed earlier _ ih =>
    apply classifyGroups_first_error wellFormed
    rw [classifyGroups, classify_first_error earlier ih]
    rfl

theorem FirstOffence.rejected {document : Document} {error : CompileError}
    (offence : FirstOffence schema document error) :
    classify schema .reject document = .error error := by
  obtain ⟨earlier, entry, later, rfl, wellFormed, offends⟩ := offence
  exact classify_first_error wellFormed offends.rejected

/-! ## Every document is well formed or has a first offence -/

private theorem wellFormed_or_offends_field
    (isField : ∀ operator : BooleanOperator, key ≠ operator.key) (value : Value) :
    WellFormedEntry schema (key, value) ∨ ∃ error, Offends schema (key, value) error := by
  cases known : schema.fieldType? (rootField key) with
  | none => exact .inr ⟨_, .unknown isField known⟩
  | some type =>
    by_cases dotted : '.' ∈ key.toList
    · exact .inl (.path dotted (known ▸ rfl))
    · have whole : IsWholeField key := ⟨isField, dotted⟩
      rw [FieldPath.rootField_of_not_mem dotted] at known
      by_cases json : type = .json
      · exact .inl (.json whole (json ▸ known))
      · cases value with
        | object fields =>
          rcases areBounds_or_first fields with bounded | first
          · exact .inl (.range whole known json bounded)
          · obtain ⟨before, name, bound, after, rfl, bounded, other⟩ := first
            exact .inr ⟨_, .comparison whole known json bounded other⟩
        | _ => exact .inl (.scalar whole known json rfl)

private theorem wellFormed_or_offends_operator (operator : BooleanOperator) {value : Value}
    (members : ∀ items, value = .array items →
      AreMembers schema items ∨ HasBadMember schema items) :
    WellFormedEntry schema (operator.key, value) ∨
      ∃ error, Offends schema (operator.key, value) error := by
  cases value with
  | array items =>
    rcases members items rfl with ⟨members, rfl, wellFormed⟩ | bad
    · exact .inl (.joined operator wellFormed)
    · obtain ⟨before, item, after, rfl, wellFormed, noObject | within⟩ := bad
      · exact .inr ⟨_, .member operator wellFormed noObject⟩
      · obtain ⟨fields, error, rfl, earlier, entry, later, rfl, kept, offends⟩ := within
        exact .inr ⟨error, .within operator wellFormed kept offends⟩
  | _ => exact .inr ⟨_, .operand operator fun _ => Value.noConfusion⟩

theorem HasBadMember.cons {fields : Document} {rest : List Value}
    (wellFormed : WellFormed schema fields) (bad : HasBadMember schema rest) :
    HasBadMember schema (.object fields :: rest) := by
  obtain ⟨before, item, after, rfl, others, offence⟩ := bad
  exact ⟨fields :: before, item, after, rfl, List.forall_mem_cons.mpr ⟨wellFormed, others⟩, offence⟩

theorem HasBadMember.head {item : Value} (rest : List Value)
    (bad : item.asDocument? = none ∨
      ∃ fields error, item = .object fields ∧ FirstOffence schema fields error) :
    HasBadMember schema (item :: rest) :=
  ⟨[], item, rest, rfl, fun _ member => absurd member List.not_mem_nil, bad⟩

theorem FirstOffence.cons {entry : String × Value} {rest : Document} {error : CompileError}
    (wellFormed : WellFormedEntry schema entry) (offence : FirstOffence schema rest error) :
    FirstOffence schema (entry :: rest) error := by
  obtain ⟨earlier, other, later, rfl, others, offends⟩ := offence
  have all := List.forall_mem_cons.mpr ⟨wellFormed, others⟩
  exact ⟨entry :: earlier, other, later, rfl, all, offends⟩

theorem FirstOffence.head {entry : String × Value} {error : CompileError} (rest : Document)
    (offends : Offends schema entry error) : FirstOffence schema (entry :: rest) error :=
  ⟨[], entry, rest, rfl, fun _ member => absurd member List.not_mem_nil, offends⟩

mutual

theorem wellFormed_or_offends_entry (key : String) : (value : Value) →
    WellFormedEntry schema (key, value) ∨ ∃ error, Offends schema (key, value) error
  | value => by
    cases named : BooleanOperator.ofKey? key with
    | none => exact wellFormed_or_offends_field (BooleanOperator.ofKey?_eq_none_iff.mp named) value
    | some operator =>
      rw [← BooleanOperator.key_of_ofKey? named]
      refine wellFormed_or_offends_operator operator fun items same => ?_
      subst same
      exact areMembers_or_hasBadMember items

theorem areMembers_or_hasBadMember : (items : List Value) →
    AreMembers schema items ∨ HasBadMember schema items
  | [] => .inl ⟨[], rfl, fun _ member => absurd member List.not_mem_nil⟩
  | item :: rest => by
    cases item with
    | object fields =>
      rcases wellFormed_or_firstOffence fields with first | ⟨error, offence⟩
      · rcases areMembers_or_hasBadMember rest with ⟨members, rfl, others⟩ | later
        · exact .inl ⟨fields :: members, rfl, List.forall_mem_cons.mpr ⟨first, others⟩⟩
        · exact .inr (later.cons first)
      · exact .inr (.head rest (.inr ⟨fields, error, rfl, offence⟩))
    | _ => exact .inr (.head rest (.inl rfl))

theorem wellFormed_or_firstOffence : (document : List (String × Value)) →
    WellFormed schema document ∨ ∃ error, FirstOffence schema document error
  | [] => .inl fun _ member => absurd member List.not_mem_nil
  | (key, value) :: rest => by
    rcases wellFormed_or_offends_entry key value with first | ⟨error, offends⟩
    · rcases wellFormed_or_firstOffence rest with others | ⟨error, offence⟩
      · exact .inl (List.forall_mem_cons.mpr ⟨first, others⟩)
      · exact .inr ⟨error, offence.cons first⟩
    · exact .inr ⟨error, .head rest offends⟩

end

/-- Rejecting unknown fields accepts exactly the grammar, and what it reports is the first
offence. -/
theorem predicateText_reject_iff (schema : Schema) (document : Document) :
    ((∃ text, predicateText schema .reject document = .ok text) ↔ WellFormed schema document) ∧
    ∀ error, predicateText schema .reject document = .error error ↔
      FirstOffence schema document error := by
  have accepts : WellFormed schema document →
      ∃ text, predicateText schema .reject document = .ok text := by
    intro wellFormed
    obtain ⟨conditions, classified⟩ := wellFormed.accepted .reject
    rw [predicateText, classified]
    exact ⟨_, rfl⟩
  have reports : ∀ error, FirstOffence schema document error →
      predicateText schema .reject document = .error error := by
    intro error offence
    rw [predicateText, offence.rejected]
    rfl
  rcases wellFormed_or_firstOffence document with wellFormed | ⟨first, offence⟩
  · obtain ⟨text, accepted⟩ := accepts wellFormed
    refine ⟨⟨fun _ => wellFormed, fun _ => ⟨text, accepted⟩⟩, fun error => ⟨?_, reports error⟩⟩
    intro fails
    rw [accepted] at fails
    cases fails
  · have fails := reports first offence
    refine ⟨⟨?_, accepts⟩, fun error => ⟨?_, reports error⟩⟩
    · rintro ⟨text, accepted⟩
      rw [fails] at accepted
      cases accepted
    · intro reported
      rw [fails] at reported
      cases reported
      exact offence

end UniversalQuery.Sql
