import UniversalQuery.Proofs.DocumentStore.FilterReader
import UniversalQuery.Proofs.SchemaNames
import UniversalQuery.Proofs.Sql.Meaning

set_option autoImplicit false

/-! Operands that are no lists of objects. Both targets walk through a condition in the same order,
and the relational one may stop early on an error that the document store does not know. So the
first bad operand is the same for both, unless something else is wrong before it. -/

namespace UniversalQuery

open Sql DocumentStore

variable {schema : Schema} {policy : UnknownFields} {key : String}

/-- The error is about a field, not about an operand. -/
def IsFieldError (error : CompileError) : Prop :=
  ∀ operator, error ≠ .invalidBooleanOperand operator

/-- How the outcomes of compiling one condition for the two targets go together. -/
inductive GoTogether {α β : Type} : Except CompileError α → Except FilterError β → Prop where
  | accepted (compiled : α) (filtered : β) : GoTogether (.ok compiled) (.ok filtered)
  | operand (operator : BooleanOperator) :
      GoTogether (.error (.invalidBooleanOperand operator))
        (.error (.invalidBooleanOperand operator))
  | stopped {error : CompileError} (filtered : Except FilterError β) :
      IsFieldError error → GoTogether (.error error) filtered

namespace GoTogether

variable {α β γ δ : Type} {compiled : Except CompileError α} {filtered : Except FilterError β}

theorem bind {next : α → Except CompileError γ} {follow : β → Except FilterError δ}
    (together : GoTogether compiled filtered)
    (after : ∀ value result, GoTogether (next value) (follow result)) :
    GoTogether (compiled >>= next) (filtered >>= follow) := by
  cases together with
  | accepted value result => exact after value result
  | operand operator => exact .operand operator
  | stopped _ aboutField => exact .stopped _ aboutField

theorem map (together : GoTogether compiled filtered) (convert : α → γ) (change : β → δ) :
    GoTogether (compiled.map convert) (filtered.map change) := by
  cases together with
  | accepted value result => exact .accepted _ _
  | operand operator => exact .operand operator
  | stopped _ aboutField => exact .stopped _ aboutField

end GoTogether

private theorem rangeBounds_isFieldError {fields : Document} {error : CompileError}
    (fails : rangeBounds key fields = .error error) : IsFieldError error := by
  induction fields with
  | nil => cases fails
  | cons field rest ih =>
    obtain ⟨name, bound⟩ := field
    unfold rangeBounds at fails
    split at fails
    · cases fails
      intro operator same
      cases same
    · obtain later | ⟨bounds, -, impossible⟩ := eq_or_exists_of_bind_eq_error fails
      · exact ih later
      · cases impossible

private theorem classifyField_isFieldError {value : Value} {error : CompileError}
    (fails : classifyField schema policy key value = .error error) : IsFieldError error := by
  unfold classifyField at fails
  dsimp only at fails
  split at fails
  · cases policy with
    | drop => cases fails
    | reject =>
      cases fails
      intro operator same
      cases same
  · split at fails
    · cases fails
    · split at fails
      · cases fails
      · split at fails
        · obtain ranged | ⟨bounds, -, impossible⟩ := eq_or_exists_of_bind_eq_error fails
          · exact rangeBounds_isFieldError ranged
          · cases impossible
        · cases fails

private theorem goTogether_field (isField : BooleanOperator.ofKey? key = none) (value : Value) :
    GoTogether (classifyEntry schema policy key value) (filterEntry key value) := by
  rw [classifyEntry_field isField, filterEntry_field isField]
  cases classified : classifyField schema policy key value with
  | ok condition => exact .accepted _ _
  | error error => exact .stopped _ (classifyField_isFieldError classified)

private theorem goTogether_operator {operator : BooleanOperator} {value : Value}
    (named : BooleanOperator.ofKey? key = some operator)
    (members : ∀ items, value = .array items →
      GoTogether (classifyGroups schema policy operator items) (filterItems operator items)) :
    GoTogether (classifyEntry schema policy key value) (filterEntry key value) := by
  cases value with
  | array items =>
    rw [classifyEntry, filterEntry, named]
    apply (members items rfl).bind
    intro groups filters
    exact .accepted _ _
  | _ =>
    simp only [classifyEntry, filterEntry, named]
    exact .operand operator

mutual

theorem goTogether_entry (key : String) : (value : Value) →
    GoTogether (classifyEntry schema policy key value) (filterEntry key value)
  | value => by
    cases named : BooleanOperator.ofKey? key with
    | none => exact goTogether_field named value
    | some operator =>
      apply goTogether_operator named
      intro items same
      subst same
      exact goTogether_members operator items

theorem goTogether_members (operator : BooleanOperator) : (items : List Value) →
    GoTogether (classifyGroups schema policy operator items) (filterItems operator items)
  | [] => .accepted _ _
  | item :: rest => by
    cases item with
    | object fields =>
      rw [classifyGroups, filterItems]
      apply (goTogether_document fields).bind
      intro group entries
      apply (goTogether_members operator rest).bind
      intro groups filters
      exact .accepted _ _
    | _ =>
      simp only [classifyGroups, filterItems]
      exact .operand operator

theorem goTogether_document : (document : List (String × Value)) →
    GoTogether (classify schema policy document) (filterEntries document)
  | [] => .accepted _ _
  | (key, value) :: rest => by
    rw [classify, filterEntries]
    apply (goTogether_entry key value).bind
    intro condition entry
    apply (goTogether_document rest).bind
    intro conditions entries
    exact .accepted _ _

end

/-- A condition that compiles to a predicate has a filter. The bad operand that compiling reports is
the one that filtering reports, and a condition without a filter has no predicate. -/
theorem operandErrors_agree (schema : Schema) (policy : UnknownFields) (document : Document) :
    ((∃ text, predicateText schema policy document = .ok text) →
      ∃ entries, filter document = .ok entries) ∧
    (∀ operator,
      predicateText schema policy document = .error (.invalidBooleanOperand operator) →
        filter document = .error (.invalidBooleanOperand operator)) ∧
    ((∃ error, filter document = .error error) →
      ∃ error, predicateText schema policy document = .error error) := by
  have together : GoTogether (predicateText schema policy document) (filter document) :=
    (goTogether_document document).map _ _
  revert together
  generalize predicateText schema policy document = compiled, filter document = filtered
  intro together
  cases together with
  | accepted text entries =>
    refine ⟨fun _ => ⟨entries, rfl⟩, ?_, ?_⟩
    · intro operator fails
      cases fails
    · intro fails
      obtain ⟨error, impossible⟩ := fails
      cases impossible
  | operand operator =>
    refine ⟨?_, ?_, fun _ => ⟨_, rfl⟩⟩
    · intro succeeds
      obtain ⟨text, impossible⟩ := succeeds
      cases impossible
    · intro other same
      cases same
      rfl
  | stopped filtered aboutField =>
    refine ⟨?_, ?_, fun _ => ⟨_, rfl⟩⟩
    · intro succeeds
      obtain ⟨text, impossible⟩ := succeeds
      cases impossible
    · intro operator same
      exact absurd (Except.error.inj same) (aboutField operator)

/-- A bad operand within a member, before an unknown field and another bad operand. -/
def nestedOffences : Document :=
  [("or", .array [
      .object [("name", .string "Jon")],
      .object [("and", .array [.object [("age", .int 18)], .string "adult"]), ("size", .int 1)],
      .null])]

theorem operandErrors_agree_nested :
    predicateText people.schema .reject [("or", .array [.object [("name", .null)]])] =
      .ok "name=null" ∧
    (∃ entries, filter [("or", .array [.object [("name", .null)]])] = .ok entries) ∧
    predicateText people.schema .reject nestedOffences = .error (.invalidBooleanOperand .and) ∧
    filter nestedOffences = .error (.invalidBooleanOperand .and) ∧
    ∃ error, predicateText people.schema .drop nestedOffences = .error error := by
  have accepted : predicateText people.schema .reject
      [("or", .array [.object [("name", .null)]])] = .ok "name=null" := by decide +kernel
  have fails : predicateText people.schema .reject nestedOffences =
      .error (.invalidBooleanOperand .and) := by decide +kernel
  obtain ⟨filtered, -, -⟩ := operandErrors_agree people.schema .reject
    [("or", .array [.object [("name", .null)]])]
  obtain ⟨-, same, -⟩ := operandErrors_agree people.schema .reject nestedOffences
  obtain ⟨-, -, later⟩ := operandErrors_agree people.schema .drop nestedOffences
  have stopped := same .and fails
  exact ⟨accepted, filtered ⟨_, accepted⟩, fails, stopped, later ⟨_, stopped⟩⟩

end UniversalQuery
