import UniversalQuery.Proofs.SchemaNames
import UniversalQuery.Proofs.Sql.Clauses

set_option autoImplicit false

/-! Groups inside groups of the same operator. A predicate is written as if the inner group were not
there, with the same parentheses, and errors are met in the same order. So the members of the inner
group can stand in its place. -/

namespace UniversalQuery.Sql

variable {schema : Schema} {policy : UnknownFields}

/-! ## Joining what is joined -/

private theorem intercalate_nested {separator : String} (before after : List String)
    {inner : List String} (nonempty : inner ≠ []) :
    separator.intercalate (before ++ separator.intercalate inner :: after) =
      separator.intercalate (before ++ inner ++ after) := by
  induction before with
  | nil =>
    rw [List.nil_append, List.nil_append]
    cases after with
    | nil => rw [String.intercalate_singleton, List.append_nil]
    | cons next rest =>
      rw [String.intercalate_cons_of_ne_nil (List.cons_ne_nil next rest),
        String.intercalate_append_of_ne_nil nonempty (List.cons_ne_nil next rest)]
  | cons first rest ih =>
    have right : rest ++ inner ++ after ≠ [] := by simp [nonempty]
    rw [List.cons_append, List.cons_append, List.cons_append,
      String.intercalate_cons_of_ne_nil (by simp), String.intercalate_cons_of_ne_nil right, ih]

namespace Predicate

variable {operator : BooleanOperator}

theorem join_congr {left right : List Predicate}
    (same : left.filter (·.text != "") = right.filter (·.text != "")) :
    join operator left = join operator right := by
  rw [join, join, same]

/-- A part that is joined by the same operator needs no parentheses. -/
theorem operand_same (operator : BooleanOperator) (text : String) :
    operand operator ⟨text, operator⟩ = text := by
  cases operator <;> simp [operand]

private theorem join_eq_intercalate {predicates : List Predicate}
    (nonempty : predicates.filter (·.text != "") ≠ [])
    (single : ∀ predicate, predicates.filter (·.text != "") = [predicate] →
      predicate.joinedBy = operator) :
    join operator predicates =
      ⟨(separator operator).intercalate
        ((predicates.filter (·.text != "")).map (operand operator)), operator⟩ := by
  have joined := joins operator predicates
  generalize join operator predicates = whole at joined ⊢
  generalize predicates.filter (·.text != "") = kept at joined nonempty single ⊢
  cases joined with
  | none => exact absurd rfl nonempty
  | one =>
    obtain ⟨text, joinedBy⟩ := whole
    obtain rfl : joinedBy = operator := single _ rfl
    rw [List.map_singleton, String.intercalate_singleton, operand_same]
  | several => rfl

private theorem intercalate_operand_nested (before after : List Predicate) {inner : List Predicate}
    (nonempty : inner ≠ []) :
    (separator operator).intercalate ((before ++
        ⟨(separator operator).intercalate (inner.map (operand operator)), operator⟩ ::
          after).map (operand operator)) =
      (separator operator).intercalate ((before ++ inner ++ after).map (operand operator)) := by
  have parts : inner.map (operand operator) ≠ [] := by simp [nonempty]
  simp only [List.map_append, List.map_cons, operand_same, intercalate_nested _ _ parts]

/-- Several parts can stand, without parentheses, in the place of their join. -/
theorem join_eq_of_several {nested flat lefts inner rights : List Predicate}
    (several : 2 ≤ inner.length)
    (joined : nested.filter (·.text != "") = lefts ++
      ⟨(separator operator).intercalate (inner.map (operand operator)), operator⟩ :: rights)
    (spread : flat.filter (·.text != "") = lefts ++ inner ++ rights) :
    join operator nested = join operator flat := by
  have nonempty : inner ≠ [] := by
    rintro rfl
    cases several
  have alone : ∀ predicate, nested.filter (·.text != "") = [predicate] →
      predicate.joinedBy = operator := by
    intro predicate single
    rcases List.append_eq_singleton_iff.mp (joined.symm.trans single) with ⟨-, same⟩ | ⟨-, none⟩
    · cases same
      rfl
    · cases none
  have crowded : ∀ predicate, flat.filter (·.text != "") ≠ [predicate] := by
    intro predicate single
    have length := congrArg List.length (spread.symm.trans single)
    simp at length
    omega
  rw [join_eq_intercalate (by simp [joined]) alone,
    join_eq_intercalate (by simp [spread, nonempty]) fun predicate single =>
      absurd single (crowded predicate),
    joined, spread, intercalate_operand_nested lefts rights nonempty]

/-- What is joined can stand in the place of the join of it. -/
theorem join_nested (operator : BooleanOperator) (before inner after : List Predicate) :
    join operator (before ++ join operator inner :: after) =
      join operator (before ++ inner ++ after) := by
  have joined := joins operator inner
  have empty : (join operator inner).text = "" ↔ inner.filter (·.text != "") = [] :=
    join_text_eq_empty_iff.trans filter_text_eq_nil_iff.symm
  generalize join operator inner = whole at joined empty ⊢
  -- Only what is not empty counts, on either side.
  have nested : (before ++ whole :: after).filter (·.text != "") =
      before.filter (·.text != "") ++ [whole].filter (·.text != "") ++
        after.filter (·.text != "") := by
    rw [← List.filter_append, ← List.filter_append, List.append_assoc, List.singleton_append]
  have flat : (before ++ inner ++ after).filter (·.text != "") =
      before.filter (·.text != "") ++ inner.filter (·.text != "") ++
        after.filter (·.text != "") := by
    rw [List.filter_append, List.filter_append]
  have visible : inner.filter (·.text != "") ≠ [] → [whole].filter (·.text != "") = [whole] := by
    intro nonempty
    simpa using mt empty.mp nonempty
  generalize inner.filter (·.text != "") = kept at joined flat visible
  cases joined with
  | none =>
    apply join_congr
    rw [nested, flat]
    rfl
  | one =>
    apply join_congr
    rw [nested, flat, visible (List.cons_ne_nil _ _)]
  | @several first second rest =>
    rw [visible (List.cons_ne_nil _ _), List.append_assoc, List.singleton_append] at nested
    exact join_eq_of_several (by simp) nested flat

end Predicate

/-! ## Parts of a condition, one after the other -/

theorem map_join_chained (operator : BooleanOperator)
    (before inner after : Except CompileError (List Predicate)) :
    (chained before (chained (inner.map fun predicates => [.join operator predicates])
      after)).map (Predicate.join operator) =
      (chained before (chained inner after)).map (Predicate.join operator) := by
  cases before with
  | error error => rfl
  | ok befores =>
    cases inner with
    | error error => rfl
    | ok inners =>
      cases after with
      | error error => rfl
      | ok afters =>
        have nested := Predicate.join_nested operator befores inners afters
        rw [List.append_assoc] at nested
        exact congrArg Except.ok nested

theorem documentPredicates_append (earlier later : Document) :
    documentPredicates schema policy (earlier ++ later) =
      chained (documentPredicates schema policy earlier)
        (documentPredicates schema policy later) := by
  induction earlier with
  | nil => exact (chained_nil _).symm
  | cons entry rest ih =>
    obtain ⟨key, value⟩ := entry
    rw [List.cons_append, documentPredicates_cons, documentPredicates_cons, ih, chained_assoc]

private theorem memberPredicates_append (operator : BooleanOperator) (earlier later : List Value) :
    memberPredicates schema policy operator (earlier ++ later) =
      chained (memberPredicates schema policy operator earlier)
        (memberPredicates schema policy operator later) := by
  induction earlier with
  | nil => exact (chained_nil _).symm
  | cons item rest ih =>
    rw [List.cons_append]
    cases item with
    | object fields =>
      rw [memberPredicates_object, memberPredicates_object, ih, chained_assoc]
    | _ =>
      rw [memberPredicates_other operator _ rfl, memberPredicates_other operator _ rfl]
      rfl

/-- The members of an operand give what the entries of all of them give. -/
theorem memberPredicates_members (operator : BooleanOperator) (members : List Document) :
    memberPredicates schema policy operator (members.map Value.object) =
      documentPredicates schema policy members.flatten := by
  induction members with
  | nil => rfl
  | cons member rest ih =>
    rw [List.map_cons, memberPredicates_object, ih, List.flatten_cons, documentPredicates_append]

theorem documentPredicates_group (before after : Document) (operator : BooleanOperator)
    (items : List Value) :
    documentPredicates schema policy (before ++ (operator.key, .array items) :: after) =
      chained (documentPredicates schema policy before)
        (chained ((memberPredicates schema policy operator items).map fun predicates =>
          [.join operator predicates]) (documentPredicates schema policy after)) := by
  rw [documentPredicates_append, documentPredicates_cons,
    entryPredicates_operator (BooleanOperator.ofKey?_key operator)]

private theorem documentPredicates_lone_group (operator : BooleanOperator) (items : List Value) :
    documentPredicates schema policy [(operator.key, .array items)] =
      (memberPredicates schema policy operator items).map fun predicates =>
        [.join operator predicates] := by
  have whole := @documentPredicates_group schema policy [] [] operator items
  exact whole.trans ((chained_nil _).trans (chained_nil_right _))

theorem predicateText_eq (document : Document) :
    predicateText schema policy document =
      ((documentPredicates schema policy document).map (Predicate.join .and)).map
        Predicate.text := by
  unfold predicateText documentPredicates
  cases classify schema policy document <;> rfl

/-! ## Groups in the place of their members -/

/-- Two documents are the same but for one group, at any depth. In the first it is a member, alone, of
a group of its operator; in the second its own members stand there. -/
inductive Splices : Document → Document → Prop where
  | here (operator : BooleanOperator) {before after : Document} {earlier later : List Value}
      {inner : List Document} :
      Splices
        (before ++ (operator.key, .array (earlier ++
          .object [(operator.key, .array (inner.map Value.object))] :: later)) :: after)
        (before ++ (operator.key, .array (earlier ++ inner.map Value.object ++ later)) :: after)
  | within (operator : BooleanOperator) {before after : Document} {earlier later : List Value}
      {nested flat : Document} :
      Splices nested flat →
      Splices (before ++ (operator.key, .array (earlier ++ .object nested :: later)) :: after)
        (before ++ (operator.key, .array (earlier ++ .object flat :: later)) :: after)

private theorem documentPredicates_group_congr {before after : Document}
    {operator : BooleanOperator} {left right : List Value}
    (same : (memberPredicates schema policy operator left).map (Predicate.join operator) =
      (memberPredicates schema policy operator right).map (Predicate.join operator)) :
    documentPredicates schema policy (before ++ (operator.key, .array left) :: after) =
      documentPredicates schema policy (before ++ (operator.key, .array right) :: after) := by
  have single (items : List Value) : ((memberPredicates schema policy operator items).map
      fun predicates => [.join operator predicates]) =
      ((memberPredicates schema policy operator items).map (Predicate.join operator)).map
        fun joined => [joined] := by
    cases memberPredicates schema policy operator items <;> rfl
  rw [documentPredicates_group, documentPredicates_group, single, single, same]

theorem Splices.documentPredicates_eq {nested flat : Document} (splices : Splices nested flat) :
    documentPredicates schema policy nested = documentPredicates schema policy flat := by
  induction splices with
  | @here operator before after earlier later inner =>
    apply documentPredicates_group_congr
    have member := @memberPredicates_object schema policy operator
      [(operator.key, .array (inner.map Value.object))] later
    rw [documentPredicates_lone_group] at member
    rw [memberPredicates_append, member, memberPredicates_append, memberPredicates_append,
      chained_assoc]
    exact map_join_chained operator _ _ _
  | within operator _ ih =>
    apply documentPredicates_group_congr
    rw [memberPredicates_append, memberPredicates_append, memberPredicates_object,
      memberPredicates_object, ih]

/-- Nesting an operator in itself changes no predicate and no error. A group of conjunctions on the
top level of a document can be replaced by the entries of its members, whatever their keys are, so
the group of one document compiles as the document; and at every depth the members of a group can
stand in the place of the group where it is a member of a group of its own operator. -/
theorem sameOperator_flattens (schema : Schema) (policy : UnknownFields) :
    (∀ (before after : Document) (members : List Document),
      predicateText schema policy
          (before ++ ("and", .array (members.map Value.object)) :: after) =
        predicateText schema policy (before ++ members.flatten ++ after)) ∧
    (∀ document : Document,
      predicateText schema policy [("and", .array [.object document])] =
        predicateText schema policy document) ∧
    ∀ nested flat : Document, Splices nested flat →
      predicateText schema policy nested = predicateText schema policy flat := by
  have top : ∀ (before after : Document) (members : List Document),
      predicateText schema policy
          (before ++ ("and", .array (members.map Value.object)) :: after) =
        predicateText schema policy (before ++ members.flatten ++ after) := by
    intro before after members
    have group := @documentPredicates_group schema policy before after .and
      (members.map Value.object)
    rw [memberPredicates_members] at group
    have flat : documentPredicates schema policy (before ++ members.flatten ++ after) =
        chained (documentPredicates schema policy before)
          (chained (documentPredicates schema policy members.flatten)
            (documentPredicates schema policy after)) := by
      rw [documentPredicates_append, documentPredicates_append, chained_assoc]
    rw [predicateText_eq, predicateText_eq, flat, ← map_join_chained, ← group]
    rfl
  refine ⟨top, fun document => ?_, fun nested flat splices => ?_⟩
  · have alone := top [] [] [document]
    rwa [List.flatten_singleton, List.nil_append, List.append_nil] at alone
  · rw [predicateText_eq, predicateText_eq, splices.documentPredicates_eq]

/-- A group of alternatives in a member of another one, with an unknown field in it. -/
def nestedAlternatives : Document :=
  [("age", .int 3),
    ("and", .array [.object [("or", .array [
      .object [("name", .string "Jon")],
      .object [("or", .array [
        .object [("salary", .int 1), ("age", .int 4)],
        .object [("job.title", .string "clerk")]])],
      .object []])]])]

def flatAlternatives : Document :=
  [("age", .int 3),
    ("and", .array [.object [("or", .array [
      .object [("name", .string "Jon")],
      .object [("salary", .int 1), ("age", .int 4)],
      .object [("job.title", .string "clerk")],
      .object []])]])]

theorem sameOperator_flattens_alternatives :
    Splices nestedAlternatives flatAlternatives ∧
    predicateText people.schema .drop nestedAlternatives =
      .ok "age=3 AND (name='Jon' OR age=4 OR job->>'title'='clerk')" ∧
    predicateText people.schema .drop nestedAlternatives =
      predicateText people.schema .drop flatAlternatives := by
  have inner : Splices
      [("or", .array [.object [("name", .string "Jon")],
        .object [("or", .array [
          .object [("salary", .int 1), ("age", .int 4)],
          .object [("job.title", .string "clerk")]])], .object []])]
      [("or", .array [.object [("name", .string "Jon")],
        .object [("salary", .int 1), ("age", .int 4)],
        .object [("job.title", .string "clerk")], .object []])] :=
    @Splices.here .or [] [] [.object [("name", .string "Jon")]] [.object []]
      [[("salary", .int 1), ("age", .int 4)], [("job.title", .string "clerk")]]
  have splices : Splices nestedAlternatives flatAlternatives :=
    @Splices.within .and [("age", .int 3)] [] [] [] _ _ inner
  obtain ⟨-, -, flattens⟩ := sameOperator_flattens people.schema .drop
  exact ⟨splices, by decide +kernel, flattens _ _ splices⟩

end UniversalQuery.Sql
