import Mathlib.Data.List.Nodup
import UniversalQuery.Proofs.DocumentStore.FilterReader
import UniversalQuery.Proofs.Outcomes

set_option autoImplicit false

/-! The entries that a filter keeps of a condition. Operators get a dollar sign and all other keys
stay as they are, so an operator and the same operator with a dollar sign become one key and the
first of the two conditions is lost. No other entries meet. -/

namespace UniversalQuery.DocumentStore

variable {key : String}

/-! ## Filters entry by entry -/

mutual

/-- The operand of an entry, in which all entries of members are kept. -/
def entrywiseOperand (key : String) : Value → Json
  | .array items =>
    match BooleanOperator.ofKey? key with
    | some _ => .array (entrywiseMembers items)
    | none => operand (.array items)
  | value => operand value

def entrywiseMembers : List Value → List Json
  | [] => []
  | .object fields :: rest => .object (entrywise fields) :: entrywiseMembers rest
  | item :: rest => item.toJson :: entrywiseMembers rest

/-- A filter with one entry for each entry of a condition, in order, and so in the members of
operands at every depth. -/
def entrywise : List (String × Value) → List (String × Json)
  | [] => []
  | (key, value) :: rest => (filterKey key, entrywiseOperand key value) :: entrywise rest

end

/-- Whether the keys of an object stay apart in a filter. -/
def haveApartFilterKeys (fields : Document) : Bool :=
  decide ((Entries.names fields).map filterKey).Nodup

mutual

def staysApartOperand (key : String) : Value → Bool
  | .array items =>
    match BooleanOperator.ofKey? key with
    | some _ => stayApartMembers items
    | none => true
  | _ => true

def stayApartMembers : List Value → Bool
  | [] => true
  | .object fields :: rest =>
    haveApartFilterKeys fields && stayApartEntries fields && stayApartMembers rest
  | _ :: rest => stayApartMembers rest

def stayApartEntries : List (String × Value) → Bool
  | [] => true
  | (key, value) :: rest => staysApartOperand key value && stayApartEntries rest

end

/-- Whether the keys of a condition stay apart in a filter: its own and those of members. -/
def staysApart (document : Document) : Bool :=
  haveApartFilterKeys document && stayApartEntries document

private theorem names_entrywise (document : Document) :
    Entries.names (entrywise document) = (Entries.names document).map filterKey := by
  induction document with
  | nil => rfl
  | cons entry rest ih =>
    rw [entrywise, Entries.names_cons, Entries.names_cons, List.map_cons, ih]

/-! ## Parts of filters -/

theorem filterItems_cons {operator : BooleanOperator} {item : Value} {rest : List Value}
    {filters : List Json} (accepted : filterItems operator (item :: rest) = .ok filters) :
    ∃ fields entries others, item = .object fields ∧ filterEntries fields = .ok entries ∧
      filterItems operator rest = .ok others ∧
      filters = .object (Entries.ofPairs entries) :: others := by
  cases item with
  | object fields =>
    rw [filterItems] at accepted
    obtain ⟨entries, first, tail⟩ := exists_of_bind_eq_ok accepted
    obtain ⟨others, later, same⟩ := exists_of_bind_eq_ok tail
    cases same
    exact ⟨fields, entries, others, rfl, first, later, rfl⟩
  | _ =>
    simp only [filterItems] at accepted
    cases accepted

theorem filterEntries_cons {value : Value} {rest : Document} {entries : List (String × Json)}
    (accepted : filterEntries ((key, value) :: rest) = .ok entries) :
    ∃ entry others, filterEntry key value = .ok entry ∧ filterEntries rest = .ok others ∧
      entries = entry :: others := by
  rw [filterEntries] at accepted
  obtain ⟨entry, first, tail⟩ := exists_of_bind_eq_ok accepted
  obtain ⟨others, later, same⟩ := exists_of_bind_eq_ok tail
  cases same
  exact ⟨entry, others, first, later, rfl⟩

theorem filterEntry_operator_ok {operator : BooleanOperator} {value : Value}
    {entry : String × Json} (named : BooleanOperator.ofKey? key = some operator)
    (accepted : filterEntry key value = .ok entry) :
    ∃ items filters, value = .array items ∧ filterItems operator items = .ok filters ∧
      entry = (operatorKey operator.key, .array filters) := by
  cases value with
  | array items =>
    simp only [filterEntry, named] at accepted
    obtain ⟨filters, members, same⟩ := exists_of_bind_eq_ok accepted
    cases same
    exact ⟨items, filters, rfl, members, rfl⟩
  | _ =>
    simp only [filterEntry, named] at accepted
    cases accepted

theorem fst_of_filterEntry {value : Value} {entry : String × Json}
    (accepted : filterEntry key value = .ok entry) : entry.1 = filterKey key := by
  cases named : BooleanOperator.ofKey? key with
  | none =>
    rw [filterEntry_field named] at accepted
    cases accepted
    exact (filterKey_field named).symm
  | some operator =>
    obtain ⟨items, filters, -, -, rfl⟩ := filterEntry_operator_ok named accepted
    exact (filterKey_operator named).symm

/-- Every entry has its own entry in a filter before equal keys become one. -/
theorem names_filterEntries {document : Document} {entries : List (String × Json)}
    (accepted : filterEntries document = .ok entries) :
    Entries.names entries = (Entries.names document).map filterKey := by
  induction document generalizing entries with
  | nil =>
    cases accepted
    rfl
  | cons field rest ih =>
    obtain ⟨key, value⟩ := field
    obtain ⟨⟨name, json⟩, others, first, later, rfl⟩ := filterEntries_cons accepted
    rw [Entries.names_cons, Entries.names_cons, List.map_cons, ← ih later,
      ← fst_of_filterEntry first]

private theorem entrywiseOperand_field (isField : BooleanOperator.ofKey? key = none)
    (value : Value) : entrywiseOperand key value = operand value := by
  cases value <;> simp [entrywiseOperand, isField]

private theorem staysApartOperand_field (isField : BooleanOperator.ofKey? key = none)
    (value : Value) : staysApartOperand key value = true := by
  cases value <;> simp [staysApartOperand, isField]

/-- What a filter makes of an object keeps its entries if none meet and all are kept one by one. -/
theorem ofPairs_eq_entrywise_iff {fields : Document} {entries : List (String × Json)}
    (accepted : filterEntries fields = .ok entries) :
    Entries.ofPairs entries = entrywise fields ↔
      haveApartFilterKeys fields = true ∧ entries = entrywise fields := by
  have spelled : Entries.names (entrywise fields) = Entries.names entries := by
    rw [names_entrywise, names_filterEntries accepted]
  rw [eq_comm, Entries.eq_ofPairs_iff spelled, names_filterEntries accepted, haveApartFilterKeys,
    decide_eq_true_iff, eq_comm (a := entries)]

/-! ## Documents -/

mutual

theorem filterEntry_eq_entrywise_iff (key : String) : (value : Value) → {entry : String × Json} →
    filterEntry key value = .ok entry →
    (entry = (filterKey key, entrywiseOperand key value) ↔ staysApartOperand key value = true)
  | value, entry, accepted => by
    cases named : BooleanOperator.ofKey? key with
    | none =>
      rw [filterEntry_field named] at accepted
      cases accepted
      simp [filterKey_field named, entrywiseOperand_field named, staysApartOperand_field named]
    | some operator =>
      obtain ⟨items, filters, rfl, members, rfl⟩ := filterEntry_operator_ok named accepted
      rw [filterKey_operator named]
      simp only [entrywiseOperand, staysApartOperand, named, Prod.mk.injEq, true_and,
        Json.array.injEq]
      exact filterItems_eq_entrywise_iff items members

theorem filterItems_eq_entrywise_iff {operator : BooleanOperator} : (items : List Value) →
    {filters : List Json} → filterItems operator items = .ok filters →
    (filters = entrywiseMembers items ↔ stayApartMembers items = true)
  | [], _, accepted => by
    cases accepted
    simp [entrywiseMembers, stayApartMembers]
  | item :: rest, _, accepted => by
    obtain ⟨fields, entries, others, rfl, first, later, rfl⟩ := filterItems_cons accepted
    rw [entrywiseMembers, stayApartMembers, List.cons.injEq, Json.object.injEq,
      ofPairs_eq_entrywise_iff first, filterEntries_eq_entrywise_iff fields first,
      filterItems_eq_entrywise_iff rest later, Bool.and_eq_true, Bool.and_eq_true]

theorem filterEntries_eq_entrywise_iff : (document : List (String × Value)) →
    {entries : List (String × Json)} → filterEntries document = .ok entries →
    (entries = entrywise document ↔ stayApartEntries document = true)
  | [], _, accepted => by
    cases accepted
    simp [entrywise, stayApartEntries]
  | (key, value) :: rest, _, accepted => by
    obtain ⟨entry, others, first, later, rfl⟩ := filterEntries_cons accepted
    rw [entrywise, stayApartEntries, List.cons.injEq, filterEntry_eq_entrywise_iff key value first,
      filterEntries_eq_entrywise_iff rest later, Bool.and_eq_true]

end

/-! ## Keys that meet -/

private theorem ofKey?_operatorKey (operator : BooleanOperator) :
    BooleanOperator.ofKey? (operatorKey operator.key) = none := by
  cases operator <;> decide

/-- A filter makes one key of an operator and of the operator with a dollar sign. -/
structure Meet (operator : BooleanOperator) (key other : String) : Prop where
  plain : key = operator.key
  dollar : other = operatorKey operator.key

private theorem eq_or_meet_of_filterKey_eq {key other : String}
    (same : filterKey key = filterKey other) :
    key = other ∨ ∃ operator, Meet operator key other ∨ Meet operator other key := by
  cases named : BooleanOperator.ofKey? key with
  | none =>
    rw [filterKey_field named] at same
    cases another : BooleanOperator.ofKey? other with
    | none => exact .inl (same.trans (filterKey_field another))
    | some operator =>
      rw [filterKey_operator another] at same
      have plain := (BooleanOperator.key_of_ofKey? another).symm
      exact .inr ⟨operator, .inr ⟨plain, same⟩⟩
  | some operator =>
    rw [filterKey_operator named] at same
    have plain := (BooleanOperator.key_of_ofKey? named).symm
    cases another : BooleanOperator.ofKey? other with
    | none =>
      rw [filterKey_field another] at same
      exact .inr ⟨operator, .inl ⟨plain, same.symm⟩⟩
    | some second =>
      rw [filterKey_operator another] at same
      rw [plain, operatorKey_key_injective same]
      exact .inl (BooleanOperator.key_of_ofKey? another)

theorem haveApartFilterKeys_iff {fields : Document} (distinct : (Entries.names fields).Nodup) :
    haveApartFilterKeys fields = true ↔ ∀ operator : BooleanOperator,
      operator.key ∈ Entries.names fields → operatorKey operator.key ∉ Entries.names fields := by
  rw [haveApartFilterKeys, decide_eq_true_iff, List.nodup_map_iff_inj_on distinct]
  constructor
  · intro apart operator plain dollar
    have meet : filterKey operator.key = filterKey (operatorKey operator.key) := by
      rw [filterKey_operator (BooleanOperator.ofKey?_key operator),
        filterKey_field (ofKey?_operatorKey operator)]
    have same := apart operator.key plain (operatorKey operator.key) dollar meet
    revert same
    cases operator <;> decide
  · intro once key member other another same
    rcases eq_or_meet_of_filterKey_eq same with equal | ⟨operator, ⟨rfl, rfl⟩ | ⟨rfl, rfl⟩⟩
    · exact equal
    · exact absurd another (once operator member)
    · exact absurd member (once operator another)

/-- A filter has one entry for each entry of its condition, in order and at every depth, exactly if
the keys of the condition stay apart. The keys of an object do so exactly if no operator is among
them both with and without a dollar sign. -/
theorem keeps_entries_iff {document : Document} {result : Entries Json}
    (accepted : filter document = .ok result) :
    (result = entrywise document ↔ staysApart document = true) ∧
    ∀ fields : Document, (Entries.names fields).Nodup →
      (haveApartFilterKeys fields = true ↔ ∀ operator : BooleanOperator,
        operator.key ∈ Entries.names fields →
          operatorKey operator.key ∉ Entries.names fields) := by
  refine ⟨?_, fun fields => haveApartFilterKeys_iff⟩
  obtain ⟨entries, filtered, rfl⟩ := exists_of_map_eq_ok accepted
  rw [ofPairs_eq_entrywise_iff filtered, filterEntries_eq_entrywise_iff document filtered,
    staysApart, Bool.and_eq_true]

/-- People by the name of Jon who are over thirty or clerks. -/
def grownJons : Document :=
  [("name", .string "Jon"),
    ("or", .array [.object [("age", .object [("gt", .int 30)])],
      .object [("and", .array [.object [("job.title", .string "clerk")]])]])]

theorem keeps_entries_iff_grownJons :
    filter grownJons = .ok (entrywise grownJons) ∧ staysApart grownJons = true := by
  have accepted : filter grownJons = .ok (entrywise grownJons) := by rfl
  exact ⟨accepted, (keeps_entries_iff accepted).1.mp rfl⟩

/-- The same operator twice: plain, and with a dollar sign as it is in filters. -/
def eitherTwice : Document :=
  [("or", .array [.object [("name", .string "Jon")]]),
    ("$or", .array [.object [("name", .string "Ann")]])]

/-- The first of the two conditions is lost. -/
theorem loses_entry_eitherTwice :
    (Entries.names eitherTwice).Nodup ∧
    filter eitherTwice = .ok [("$or", .array [.object [("name", .string "Ann")]])] :=
  ⟨by decide, rfl⟩

end UniversalQuery.DocumentStore
