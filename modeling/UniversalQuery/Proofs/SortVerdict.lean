import UniversalQuery.DocumentStore.Request
import UniversalQuery.Proofs.Sql.UnknownFields

set_option autoImplicit false

/-! Which of two records comes first. SQL sorts by all entries of an order, a document store by a
map that has a repeated field once: in its first place, with its last direction. The first field
that sets two records apart decides, so the two sort alike exactly where the last direction of that
field is its first one. -/

namespace UniversalQuery

variable {Record : Type} {compareField : String → Record → Record → Ordering}
  {left right : Record} {field : String} {keys : List (String × Direction)}

/-! ## Comparing by fields -/

def Direction.turn : Direction → Ordering → Ordering
  | .ascending, verdict => verdict
  | .descending, verdict => verdict.swap

/-- Compares two records by the first field, by the next if they are alike in it, and so on. -/
def compareBy (compareField : String → Record → Record → Ordering) (left right : Record) :
    List (String × Direction) → Ordering
  | [] => .eq
  | (field, direction) :: rest =>
    (direction.turn (compareField field left right)).then (compareBy compareField left right rest)

def setsApart (compareField : String → Record → Record → Ordering) (left right : Record)
    (field : String) : Bool :=
  compareField field left right != .eq

private theorem turn_eq (direction : Direction) : direction.turn .eq = .eq := by
  cases direction <;> rfl

/-- Turning a verdict that is not a draw tells the directions apart. -/
theorem turn_eq_turn_iff {verdict : Ordering} (decided : verdict ≠ .eq) (first last : Direction) :
    last.turn verdict = first.turn verdict ↔ first = last := by
  cases verdict
  · cases first <;> cases last <;> decide
  · exact absurd rfl decided
  · cases first <;> cases last <;> decide

private theorem then_eq_of_ne {verdict : Ordering} (decided : verdict ≠ .eq) (direction : Direction)
    (other : Ordering) : (direction.turn verdict).then other = direction.turn verdict := by
  cases verdict
  · cases direction <;> rfl
  · exact absurd rfl decided
  · cases direction <;> rfl

/-- The records are alike in all fields, or the first field that sets them apart decides. -/
theorem compareBy_eq (keys : List (String × Direction)) :
    compareBy compareField left right keys =
      match (Entries.names keys).find? (setsApart compareField left right) with
      | none => .eq
      | some field =>
        ((Entries.get? keys field).getD .ascending).turn (compareField field left right) := by
  induction keys with
  | nil => rfl
  | cons key rest ih =>
    obtain ⟨field, direction⟩ := key
    rw [compareBy, Entries.names_cons, List.find?_cons]
    cases apart : setsApart compareField left right field with
    | true =>
      have decided : compareField field left right ≠ .eq := bne_iff_ne.mp apart
      simp only [Entries.get?, ↓reduceIte, Option.getD_some]
      exact then_eq_of_ne decided direction _
    | false =>
      have alike : compareField field left right = .eq := by simpa [setsApart] using apart
      rw [alike, turn_eq, Ordering.eq_then, ih]
      cases found : (Entries.names rest).find? (setsApart compareField left right) with
      | none => rfl
      | some other =>
        -- The deciding field is not the first one, so both lists give it the same direction.
        have later : ¬ field = other := by
          rintro rfl
          rw [List.find?_some found] at apart
          cases apart
        simp only [Entries.get?, if_neg later]

/-! ## The two targets -/

def sortKeys (order : List OrderEntry) : List (String × Direction) :=
  order.map fun entry => (entry.field, entry.direction)

def orderVerdict (compareField : String → Record → Record → Ordering) (order : List OrderEntry)
    (left right : Record) : Ordering :=
  compareBy compareField left right (sortKeys order)

def readDirection? : Json → Option Direction
  | .int 1 => some .ascending
  | .int (-1) => some .descending
  | _ => none

def readSortKeys? : Entries Json → Option (List (String × Direction))
  | [] => some []
  | (field, number) :: rest => do
    let direction ← readDirection? number
    let others ← readSortKeys? rest
    some ((field, direction) :: others)

/-- The verdict of the keys of a sort document, in key order. -/
def documentVerdict? (compareField : String → Record → Record → Ordering) (sort : Entries Json)
    (left right : Record) : Option Ordering :=
  (readSortKeys? sort).map (compareBy compareField left right)

def directionsOf (order : List OrderEntry) (field : String) : List Direction :=
  Entries.given (sortKeys order) field

/-- The last entry on a field has the direction of the first one. -/
def KeepsDirection (order : List OrderEntry) (field : String) : Prop :=
  (directionsOf order field).head? = (directionsOf order field).getLast?

/-- The first field of an order that sets two records apart. -/
def decidingField? (compareField : String → Record → Record → Ordering) (order : List OrderEntry)
    (left right : Record) : Option String :=
  (order.map OrderEntry.field).find? (setsApart compareField left right)

def directionJson (direction : Direction) : Json :=
  .int (DocumentStore.directionNumber direction)

private theorem readDirection?_directionJson (direction : Direction) :
    readDirection? (directionJson direction) = some direction := by
  cases direction <;> rfl

private theorem readSortKeys?_mapValues (keys : List (String × Direction)) :
    readSortKeys? (Entries.mapValues directionJson keys) = some keys := by
  induction keys with
  | nil => rfl
  | cons key rest ih =>
    obtain ⟨field, direction⟩ := key
    rw [Entries.mapValues, List.map_cons, readSortKeys?, readDirection?_directionJson]
    rw [Entries.mapValues] at ih
    rw [ih]
    rfl

theorem readSortKeys?_sortDocument (order : List OrderEntry) :
    readSortKeys? (DocumentStore.sortDocument order) =
      some (Entries.ofPairs (sortKeys order)) := by
  have written : DocumentStore.sortDocument order =
      Entries.ofPairs (Entries.mapValues directionJson (sortKeys order)) := by
    rw [DocumentStore.sortDocument, Entries.mapValues, sortKeys, List.map_map]
    rfl
  rw [written, Entries.ofPairs_mapValues, readSortKeys?_mapValues]

theorem names_sortKeys (order : List OrderEntry) :
    Entries.names (sortKeys order) = order.map OrderEntry.field := by
  rw [Entries.names, sortKeys, List.map_map]
  rfl

private theorem directionsOf_ne_nil {order : List OrderEntry}
    (member : field ∈ order.map OrderEntry.field) : directionsOf order field ≠ [] := by
  rw [← names_sortKeys, ← Entries.has_eq_true_iff, Entries.has,
    Entries.get?_eq_head?_given] at member
  intro empty
  rw [← directionsOf, empty] at member
  cases member

theorem documentVerdict?_eq_iff (order : List OrderEntry) :
    documentVerdict? compareField (DocumentStore.sortDocument order) left right =
        some (orderVerdict compareField order left right) ↔
      ∀ field, decidingField? compareField order left right = some field →
        KeepsDirection order field := by
  rw [documentVerdict?, readSortKeys?_sortDocument, Option.map_some, Option.some.injEq,
    orderVerdict, compareBy_eq, compareBy_eq, Entries.find?_names_ofPairs, names_sortKeys,
    ← decidingField?]
  cases deciding : decidingField? compareField order left right with
  | none =>
    constructor
    · intro _ field found
      cases found
    · intro _
      rfl
  | some field =>
    have member : field ∈ order.map OrderEntry.field := List.mem_of_find?_eq_some deciding
    have apart : setsApart compareField left right field = true := List.find?_some deciding
    have decided : compareField field left right ≠ .eq := bne_iff_ne.mp apart
    have given := directionsOf_ne_nil member
    have first := List.head?_eq_some_head given
    have last := List.getLast?_eq_some_getLast given
    simp only [Option.some.injEq, forall_eq']
    rw [Entries.get?_ofPairs, Entries.get?_eq_head?_given, ← directionsOf, KeepsDirection, first,
      last, Option.getD_some, Option.getD_some, turn_eq_turn_iff decided, Option.some.injEq]

/-! ## All records -/

def compareValues (field : String) (left right : String → Int) : Ordering :=
  compare (left field) (right field)

def oneAt (field : String) : String → Int :=
  fun name => if name = field then 1 else 0

private theorem setsApart_oneAt (name : String) :
    setsApart compareValues (fun _ => 0) (oneAt field) name = true ↔ name = field := by
  by_cases same : name = field
  · simp [setsApart, compareValues, oneAt, same]
  · simp [setsApart, compareValues, oneAt, same]

/-- Every field of an order decides on the records that differ in it only. -/
theorem decidingField?_oneAt {order : List OrderEntry}
    (member : field ∈ order.map OrderEntry.field) :
    decidingField? compareValues order (fun _ => 0) (oneAt field) = some field := by
  cases deciding : decidingField? compareValues order (fun _ => 0) (oneAt field) with
  | none =>
    have alike := List.find?_eq_none.mp deciding field member
    exact absurd ((setsApart_oneAt field).mpr rfl) alike
  | some other =>
    rw [(setsApart_oneAt other).mp (List.find?_some deciding)]

theorem knownOrder_reject_iff {schema : Schema} {order known : List OrderEntry} :
    Sql.knownOrder schema .reject order = .ok known ↔
      (∀ entry ∈ order, (schema.fieldType? (rootField entry.field)).isSome = true) ∧
        order = known := by
  constructor
  · intro accepted
    have all := List.filter_eq_self.mp (Sql.pruneOrder_of_knownOrder accepted)
    rw [Sql.knownOrder_reject_of_known all] at accepted
    cases accepted
    exact ⟨all, rfl⟩
  · rintro ⟨all, rfl⟩
    exact Sql.knownOrder_reject_of_known all

/-- In SQL the clause of an order has an item for each entry, in sequence. A store sorts two records
as those entries do exactly if the field that decides on them keeps its direction, and so it sorts
all records alike exactly if every field of the order does. -/
theorem sorts_alike_iff (order : List OrderEntry) :
    (∀ schema text, Sql.orderText schema .reject (some order) = .ok text ↔
      (∀ entry ∈ order, (schema.fieldType? (rootField entry.field)).isSome = true) ∧
        Sql.orderClause schema order = text) ∧
    (∀ (Record : Type) (compareField : String → Record → Record → Ordering)
        (left right : Record),
      documentVerdict? compareField (DocumentStore.sortDocument order) left right =
          some (orderVerdict compareField order left right) ↔
        ∀ field, decidingField? compareField order left right = some field →
          KeepsDirection order field) ∧
    ((∀ (Record : Type) (compareField : String → Record → Record → Ordering)
        (left right : Record),
      documentVerdict? compareField (DocumentStore.sortDocument order) left right =
        some (orderVerdict compareField order left right)) ↔
      ∀ field ∈ order.map OrderEntry.field, KeepsDirection order field) := by
  refine ⟨fun schema text => ?_, fun Record compareField left right => ?_, ?_⟩
  · rw [Sql.orderText, Option.getD_some]
    constructor
    · intro accepted
      obtain ⟨known, compiled, same⟩ := exists_of_map_eq_ok accepted
      obtain ⟨all, rfl⟩ := knownOrder_reject_iff.mp compiled
      exact ⟨all, same⟩
    · rintro ⟨all, rfl⟩
      rw [knownOrder_reject_iff.mpr ⟨all, rfl⟩]
      rfl
  · exact documentVerdict?_eq_iff order
  · constructor
    · intro alike field member
      have same := alike (String → Int) compareValues (fun _ => 0) (oneAt field)
      exact (documentVerdict?_eq_iff order).mp same field (decidingField?_oneAt member)
    · intro keeps Record compareField left right
      rw [documentVerdict?_eq_iff]
      intro field deciding
      exact keeps field (List.mem_of_find?_eq_some deciding)

def ageTwice : List OrderEntry :=
  [⟨"age", .ascending⟩, ⟨"age", .descending⟩]

/-- The entries put the smaller age first, the sort document the greater one. -/
theorem sorts_apart_ageTwice :
    orderVerdict compareValues ageTwice (fun _ => 30) (fun _ => 40) = .lt ∧
    documentVerdict? compareValues (DocumentStore.sortDocument ageTwice) (fun _ => 30)
      (fun _ => 40) = some .gt :=
  ⟨by decide, by decide⟩

end UniversalQuery
