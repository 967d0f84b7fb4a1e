import Mathlib.Data.List.Forall2
import UniversalQuery.Query.Basic

set_option autoImplicit false

/-! Boolean formulas over comparisons: what a condition means, whatever it is written in. Two
formulas agree if they have the same leaves in the same order and the same value under every truth
assignment of the leaves. -/

namespace UniversalQuery

inductive Relation where
  | equal
  | bound (operator : ComparisonOperator)
deriving DecidableEq, Repr

structure Comparison (α : Type) where
  key : String
  relation : Relation
  value : α
deriving DecidableEq, Repr

def Comparison.map {α β : Type} (convert : α → β) (comparison : Comparison α) : Comparison β :=
  ⟨comparison.key, comparison.relation, convert comparison.value⟩

def BooleanOperator.combine : BooleanOperator → List Bool → Bool
  | .and, values => values.all id
  | .or, values => values.any id

/-- A Boolean formula. An operator joins any number of parts. -/
inductive Formula (α : Type) where
  | leaf (comparison : α)
  | join (operator : BooleanOperator) (parts : List (Formula α))

namespace Formula

variable {α β : Type}

mutual

def eval (truth : α → Bool) : Formula α → Bool
  | .leaf comparison => truth comparison
  | .join operator parts => operator.combine (evalEach truth parts)

def evalEach (truth : α → Bool) : List (Formula α) → List Bool
  | [] => []
  | part :: rest => part.eval truth :: evalEach truth rest

end

mutual

def leaves : Formula α → List α
  | .leaf comparison => [comparison]
  | .join _ parts => leavesEach parts

def leavesEach : List (Formula α) → List α
  | [] => []
  | part :: rest => part.leaves ++ leavesEach rest

end

mutual

def map (convert : α → β) : Formula α → Formula β
  | .leaf comparison => .leaf (convert comparison)
  | .join operator parts => .join operator (mapEach convert parts)

def mapEach (convert : α → β) : List (Formula α) → List (Formula β)
  | [] => []
  | part :: rest => part.map convert :: mapEach convert rest

end

/-- The formula of several parts under one operator. There is none without parts. -/
def joined? (operator : BooleanOperator) : List (Formula α) → Option (Formula α)
  | [] => none
  | parts => some (.join operator parts)

theorem evalEach_eq_map (truth : α → Bool) (parts : List (Formula α)) :
    evalEach truth parts = parts.map (eval truth) := by
  induction parts with
  | nil => rfl
  | cons part rest ih => simp [evalEach, ih]

theorem leavesEach_eq_flatMap (parts : List (Formula α)) :
    leavesEach parts = parts.flatMap leaves := by
  induction parts with
  | nil => rfl
  | cons part rest ih => simp [leavesEach, ih]

theorem mapEach_eq_map (convert : α → β) (parts : List (Formula α)) :
    mapEach convert parts = parts.map (map convert) := by
  induction parts with
  | nil => rfl
  | cons part rest ih => simp [mapEach, ih]

@[simp] theorem eval_and (truth : α → Bool) (parts : List (Formula α)) :
    (join .and parts).eval truth = parts.all (eval truth) := by
  simp [eval, evalEach_eq_map, BooleanOperator.combine, List.all_map]

@[simp] theorem eval_or (truth : α → Bool) (parts : List (Formula α)) :
    (join .or parts).eval truth = parts.any (eval truth) := by
  simp [eval, evalEach_eq_map, BooleanOperator.combine, List.any_map]

@[simp] theorem leaves_leaf (comparison : α) : (leaf comparison).leaves = [comparison] := by
  simp [leaves]

@[simp] theorem leaves_join (operator : BooleanOperator) (parts : List (Formula α)) :
    (join operator parts).leaves = parts.flatMap leaves := by
  simp [leaves, leavesEach_eq_flatMap]

@[simp] theorem map_leaf (convert : α → β) (comparison : α) :
    (leaf comparison).map convert = .leaf (convert comparison) := by
  simp [map]

@[simp] theorem map_join (convert : α → β) (operator : BooleanOperator)
    (parts : List (Formula α)) :
    (join operator parts).map convert = .join operator (parts.map (map convert)) := by
  simp [map, mapEach_eq_map]

theorem joined?_of_ne_nil (operator : BooleanOperator) {parts : List (Formula α)}
    (nonempty : parts ≠ []) : joined? operator parts = some (.join operator parts) := by
  cases parts with
  | nil => exact absurd rfl nonempty
  | cons part rest => rfl

theorem joined?_eq_none_iff {operator : BooleanOperator} {parts : List (Formula α)} :
    joined? operator parts = none ↔ parts = [] := by
  cases parts <;> simp [joined?]

theorem eq_join_of_joined? {operator : BooleanOperator} {parts : List (Formula α)}
    {formula : Formula α} (joined : joined? operator parts = some formula) :
    formula = .join operator parts := by
  cases parts with
  | nil => cases joined
  | cons part rest => exact (Option.some.inj joined).symm

/-! ## Agreement -/

/-- The same leaves in the same order, and the same value whatever holds. -/
structure Agrees (left right : Formula α) : Prop where
  leaves : left.leaves = right.leaves
  eval : ∀ truth, left.eval truth = right.eval truth

namespace Agrees

variable {left middle right : Formula α} {lefts rights : List (Formula α)}

theorem refl (formula : Formula α) : Agrees formula formula :=
  ⟨rfl, fun _ => rfl⟩

theorem symm (agree : Agrees left right) : Agrees right left :=
  ⟨agree.leaves.symm, fun truth => (agree.eval truth).symm⟩

theorem trans (first : Agrees left middle) (second : Agrees middle right) : Agrees left right :=
  ⟨first.leaves.trans second.leaves, fun truth => (first.eval truth).trans (second.eval truth)⟩

/-- Joining a single part changes nothing. -/
theorem join_singleton (operator : BooleanOperator) (part : Formula α) :
    Agrees (.join operator [part]) part := by
  constructor
  · simp
  · intro truth
    cases operator <;> simp

/-- The parts of a part under the same operator can stand in its place. -/
theorem join_append (operator : BooleanOperator) (lefts rights : List (Formula α)) :
    Agrees (.join operator [.join operator lefts, .join operator rights])
      (.join operator (lefts ++ rights)) := by
  constructor
  · simp
  · intro truth
    cases operator <;> simp

theorem join_congr (operator : BooleanOperator) (agree : List.Forall₂ Agrees lefts rights) :
    Agrees (.join operator lefts) (.join operator rights) := by
  induction agree with
  | nil => exact refl _
  | @cons left right lefts rights head _ tail =>
    constructor
    · have leaves := tail.leaves
      simp only [leaves_join] at leaves
      simp [head.leaves, leaves]
    · intro truth
      have value := tail.eval truth
      cases operator <;> simp_all [head.eval truth]

theorem join_pair (operator : BooleanOperator) {left right other another : Formula α}
    (first : Agrees left other) (second : Agrees right another) :
    Agrees (.join operator [left, right]) (.join operator [other, another]) :=
  join_congr operator (.cons first (.cons second .nil))

/-- A first part and the others joined are all of them joined. -/
theorem join_cons (operator : BooleanOperator) (part : Formula α) (rest : List (Formula α)) :
    Agrees (.join operator [part, .join operator rest]) (.join operator (part :: rest)) :=
  (join_pair operator (join_singleton operator part).symm (refl _)).trans
    (join_append operator [part] rest)

end Agrees

end Formula

end UniversalQuery
