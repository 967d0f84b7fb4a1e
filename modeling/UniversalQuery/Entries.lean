set_option autoImplicit false

/-! Lists of named entries. A name has one place, the one where it first came, and one value, the
one it was given last. -/

namespace UniversalQuery

abbrev Entries (α : Type) := List (String × α)

namespace Entries

variable {α β : Type}

/-- Sets a name: in its place if it is there already, at the end otherwise. -/
def put : Entries α → String → α → Entries α
  | [], name, value => [(name, value)]
  | (key, old) :: rest, name, value =>
    if key = name then (key, value) :: rest else (key, old) :: put rest name value

/-- Sets every name of a list of pairs, one after the other. -/
def putAll (entries : Entries α) (pairs : List (String × α)) : Entries α :=
  pairs.foldl (fun built pair => put built pair.1 pair.2) entries

/-- The entries that a list of pairs leaves: first place, last value. -/
def ofPairs (pairs : List (String × α)) : Entries α :=
  putAll [] pairs

def get? : Entries α → String → Option α
  | [], _ => none
  | (key, value) :: rest, name => if key = name then some value else get? rest name

def has (entries : Entries α) (name : String) : Bool :=
  (get? entries name).isSome

def names (entries : Entries α) : List String :=
  entries.map Prod.fst

def firstRepeated? (names : List String) : Option String :=
  go [] names
where
  go (seen : List String) : List String → Option String
    | [] => none
    | name :: rest => if name ∈ seen then some name else go (name :: seen) rest

theorem firstRepeated?.go_eq_none_iff {seen names : List String} :
    go seen names = none ↔ names.Nodup ∧ ∀ name ∈ names, name ∉ seen := by
  induction names generalizing seen with
  | nil => simp [go]
  | cons name rest ih =>
    rw [go, List.nodup_cons, List.forall_mem_cons]
    by_cases known : name ∈ seen
    · simp [known]
    · rw [if_neg known, ih]
      constructor
      · rintro ⟨distinct, apart⟩
        have fresh : name ∉ rest := fun later => apart name later List.mem_cons_self
        exact ⟨⟨fresh, distinct⟩, known, fun other later inside =>
          apart other later (List.mem_cons_of_mem _ inside)⟩
      · rintro ⟨⟨fresh, distinct⟩, -, apart⟩
        refine ⟨distinct, fun other later inside => ?_⟩
        rcases List.mem_cons.mp inside with same | before
        · exact fresh (same ▸ later)
        · exact apart other later before

theorem firstRepeated?.exists_of_go_eq_some {seen names : List String} {name : String}
    (found : go seen names = some name) :
    ∃ before after, names = before ++ name :: after ∧ before.Nodup ∧
      (∀ other ∈ before, other ∉ seen) ∧ (name ∈ before ∨ name ∈ seen) := by
  induction names generalizing seen with
  | nil => cases found
  | cons first rest ih =>
    rw [go] at found
    split at found
    · rename_i known
      cases found
      exact ⟨[], rest, rfl, List.nodup_nil, by simp, .inr known⟩
    · rename_i fresh
      obtain ⟨before, after, rfl, distinct, apart, repeated⟩ := ih found
      have new : first ∉ before := fun inside => apart first inside List.mem_cons_self
      refine ⟨first :: before, after, rfl, List.nodup_cons.mpr ⟨new, distinct⟩, ?_, ?_⟩
      · rw [List.forall_mem_cons]
        exact ⟨fresh, fun other inside known =>
          apart other inside (List.mem_cons_of_mem _ known)⟩
      · rcases repeated with inside | known
        · exact .inl (List.mem_cons_of_mem _ inside)
        · rcases List.mem_cons.mp known with same | before
          · exact .inl (same ▸ List.mem_cons_self)
          · exact .inr before

theorem firstRepeated?_eq_none_iff {names : List String} :
    firstRepeated? names = none ↔ names.Nodup := by
  rw [firstRepeated?, firstRepeated?.go_eq_none_iff]
  simp

/-- The name that is found came before, and all names before it came once. -/
theorem exists_of_firstRepeated?_eq_some {names : List String} {name : String}
    (found : firstRepeated? names = some name) :
    ∃ before after, names = before ++ name :: after ∧ before.Nodup ∧ name ∈ before := by
  obtain ⟨before, after, split, distinct, -, repeated⟩ :=
    firstRepeated?.exists_of_go_eq_some found
  refine ⟨before, after, split, distinct, ?_⟩
  simpa using repeated

@[simp] theorem ofPairs_nil : ofPairs ([] : List (String × α)) = [] := rfl

@[simp] theorem putAll_nil (entries : Entries α) : putAll entries [] = entries := rfl

@[simp] theorem putAll_cons (entries : Entries α) (name : String) (value : α)
    (rest : List (String × α)) :
    putAll entries ((name, value) :: rest) = putAll (put entries name value) rest := rfl

theorem names_cons (name : String) (value : α) (rest : Entries α) :
    names ((name, value) :: rest) = name :: names rest := rfl

theorem put_of_not_mem {entries : Entries α} {name : String} (value : α)
    (fresh : name ∉ names entries) : put entries name value = entries ++ [(name, value)] := by
  induction entries with
  | nil => rfl
  | cons entry rest ih =>
    obtain ⟨key, old⟩ := entry
    simp only [names, List.map_cons, List.mem_cons, not_or] at fresh
    have apart : ¬ key = name := fun same => fresh.1 same.symm
    simp [put, apart, ih fresh.2]

theorem names_put (entries : Entries α) (name : String) (value : α) :
    names (put entries name value) =
      if name ∈ names entries then names entries else names entries ++ [name] := by
  induction entries with
  | nil => simp [put, names]
  | cons entry rest ih =>
    obtain ⟨key, old⟩ := entry
    by_cases same : key = name
    · simp [put, names, same]
    · have apart : ¬ name = key := fun other => same other.symm
      simp only [names] at ih
      by_cases member : name ∈ rest.map Prod.fst <;>
        simp_all [put, names]

theorem get?_put (entries : Entries α) (name other : String) (value : α) :
    get? (put entries name value) other =
      if name = other then some value else get? entries other := by
  induction entries with
  | nil => rfl
  | cons entry rest ih =>
    obtain ⟨key, old⟩ := entry
    by_cases same : key = name
    · subst same
      by_cases hit : key = other <;> simp [put, get?, hit]
    · by_cases hit : key = other
      · have apart : ¬ name = other := fun both => same (hit.trans both.symm)
        rw [put, if_neg same]
        simp [get?, hit, apart]
      · simp [put, get?, same, hit, ih]

theorem mem_of_get?_eq_some {entries : Entries α} {name : String} {value : α}
    (found : get? entries name = some value) : (name, value) ∈ entries := by
  induction entries with
  | nil => cases found
  | cons entry rest ih =>
    obtain ⟨key, first⟩ := entry
    rw [get?] at found
    split at found
    · rename_i same
      cases found
      rw [same]
      exact List.mem_cons_self
    · exact List.mem_cons_of_mem _ (ih found)

theorem get?_of_mem {entries : Entries α} {name : String} {value : α}
    (distinct : (names entries).Nodup) (member : (name, value) ∈ entries) :
    get? entries name = some value := by
  induction entries with
  | nil => cases member
  | cons entry rest ih =>
    obtain ⟨key, first⟩ := entry
    rw [names_cons, List.nodup_cons] at distinct
    rcases List.mem_cons.mp member with same | later
    · cases same
      rw [get?, if_pos rfl]
    · have apart : ¬ key = name := by
        rintro rfl
        exact distinct.1 (List.mem_map_of_mem later)
      rw [get?, if_neg apart, ih distinct.2 later]

/-- A name is set if it is among the names. -/
theorem has_eq_true_iff (entries : Entries α) (name : String) :
    has entries name = true ↔ name ∈ names entries := by
  induction entries with
  | nil => simp [has, get?, names]
  | cons entry rest ih =>
    obtain ⟨key, value⟩ := entry
    simp only [has, names] at ih
    by_cases same : key = name
    · simp [has, get?, names, same]
    · have apart : ¬ name = key := fun other => same other.symm
      simp [has, get?, names, same, apart, ih]

theorem mem_names_put (entries : Entries α) (name other : String) (value : α) :
    other ∈ names (put entries name value) ↔ other = name ∨ other ∈ names entries := by
  rw [names_put]
  split
  · rename_i known
    constructor
    · exact Or.inr
    · rintro (rfl | member)
      · exact known
      · exact member
  · rw [List.mem_append, List.mem_singleton, Or.comm]

theorem nodup_names_put {entries : Entries α} (distinct : (names entries).Nodup) (name : String)
    (value : α) : (names (put entries name value)).Nodup := by
  rw [names_put]
  split
  · exact distinct
  · rename_i fresh
    rw [List.nodup_append]
    refine ⟨distinct, List.pairwise_singleton _ name, ?_⟩
    intro other member same last equal
    exact fresh (List.mem_singleton.mp last ▸ equal ▸ member)

theorem nodup_names_putAll {entries : Entries α} (distinct : (names entries).Nodup)
    (pairs : List (String × α)) : (names (putAll entries pairs)).Nodup := by
  induction pairs generalizing entries with
  | nil => exact distinct
  | cons pair rest ih => exact ih (nodup_names_put distinct pair.1 pair.2)

theorem nodup_names_ofPairs (pairs : List (String × α)) : (names (ofPairs pairs)).Nodup := by
  have start : (names ([] : Entries α)).Nodup := List.nodup_nil
  exact nodup_names_putAll start pairs

theorem putAll_of_nodup {entries : Entries α} {pairs : List (String × α)}
    (distinct : (names (entries ++ pairs)).Nodup) : putAll entries pairs = entries ++ pairs := by
  induction pairs generalizing entries with
  | nil => simp
  | cons pair rest ih =>
    obtain ⟨name, value⟩ := pair
    have fresh : name ∉ names entries := by
      rw [names, List.map_append, List.nodup_append] at distinct
      exact fun member => distinct.2.2 name member name List.mem_cons_self rfl
    have step := put_of_not_mem value fresh
    rw [putAll_cons, step, ih, List.append_assoc, List.singleton_append]
    rwa [List.append_assoc, List.singleton_append]

theorem ofPairs_of_nodup {pairs : List (String × α)} (distinct : (names pairs).Nodup) :
    ofPairs pairs = pairs :=
  putAll_of_nodup distinct

/-- A list of pairs is a map by itself exactly if its names are distinct. -/
theorem ofPairs_eq_self_iff {pairs : List (String × α)} :
    ofPairs pairs = pairs ↔ (names pairs).Nodup := by
  constructor
  · intro same
    rw [← same]
    exact nodup_names_ofPairs pairs
  · exact ofPairs_of_nodup

/-- A list with the names of a list of pairs is the map of them exactly if nothing is merged. -/
theorem eq_ofPairs_iff {entries pairs : List (String × α)} (spelled : names entries = names pairs) :
    entries = ofPairs pairs ↔ (names pairs).Nodup ∧ entries = pairs := by
  constructor
  · intro same
    have distinct : (names pairs).Nodup := by
      rw [← spelled, same]
      exact nodup_names_ofPairs pairs
    exact ⟨distinct, same.trans (ofPairs_of_nodup distinct)⟩
  · rintro ⟨distinct, same⟩
    rw [ofPairs_of_nodup distinct, same]

theorem mem_names_putAll (entries : Entries α) (pairs : List (String × α)) (name : String) :
    name ∈ names (putAll entries pairs) ↔ name ∈ names entries ∨ name ∈ names pairs := by
  induction pairs generalizing entries with
  | nil => simp [names]
  | cons pair rest ih =>
    obtain ⟨other, value⟩ := pair
    rw [putAll_cons, ih, mem_names_put, names_cons, List.mem_cons, or_assoc, or_left_comm]

theorem mem_of_mem_put {entries : Entries α} {name : String} {value : α} {entry : String × α}
    (member : entry ∈ put entries name value) : entry = (name, value) ∨ entry ∈ entries := by
  induction entries with
  | nil => exact .inl (List.mem_singleton.mp member)
  | cons first rest ih =>
    obtain ⟨key, old⟩ := first
    rw [put] at member
    split at member
    · rename_i same
      rw [same] at member
      exact (List.mem_cons.mp member).imp_right (List.mem_cons_of_mem _)
    · obtain rfl | later := List.mem_cons.mp member
      · exact .inr List.mem_cons_self
      · exact (ih later).imp_right (List.mem_cons_of_mem _)

theorem mem_of_mem_putAll {entries : Entries α} {pairs : List (String × α)} {entry : String × α}
    (member : entry ∈ putAll entries pairs) : entry ∈ entries ∨ entry ∈ pairs := by
  induction pairs generalizing entries with
  | nil => exact .inl member
  | cons pair rest ih =>
    obtain put | later := ih member
    · obtain rfl | before := mem_of_mem_put put
      · exact .inr List.mem_cons_self
      · exact .inl before
    · exact .inr (List.mem_cons_of_mem _ later)

/-- Merging equal names adds nothing. -/
theorem mem_of_mem_ofPairs {pairs : List (String × α)} {entry : String × α}
    (member : entry ∈ ofPairs pairs) : entry ∈ pairs := by
  obtain none | inside := mem_of_mem_putAll member
  · cases none
  · exact inside

/-- Merging equal names loses none of them. -/
theorem mem_names_ofPairs {pairs : List (String × α)} {name : String} :
    name ∈ names (ofPairs pairs) ↔ name ∈ names pairs := by
  rw [ofPairs, mem_names_putAll]
  simp [names]

/-- The values that a list of pairs gives a name, in order. -/
def given (pairs : List (String × α)) (name : String) : List α :=
  (pairs.filter fun pair => pair.1 == name).map Prod.snd

theorem given_cons (key name : String) (value : α) (rest : List (String × α)) :
    given ((key, value) :: rest) name =
      if key = name then value :: given rest name else given rest name := by
  by_cases same : key = name <;> simp [given, same]

theorem get?_eq_head?_given (pairs : List (String × α)) (name : String) :
    get? pairs name = (given pairs name).head? := by
  induction pairs with
  | nil => rfl
  | cons pair rest ih =>
    obtain ⟨key, value⟩ := pair
    rw [get?, given_cons]
    split
    · rfl
    · exact ih

theorem get?_putAll (entries : Entries α) (pairs : List (String × α)) (name : String) :
    get? (putAll entries pairs) name = (given pairs name).getLast?.or (get? entries name) := by
  induction pairs generalizing entries with
  | nil => rfl
  | cons pair rest ih =>
    obtain ⟨key, value⟩ := pair
    rw [putAll_cons, ih, get?_put, given_cons]
    split
    · rw [List.getLast?_cons]
      cases (given rest name).getLast? <;> rfl
    · rfl

/-- A name keeps the last value that it is given. -/
theorem get?_ofPairs (pairs : List (String × α)) (name : String) :
    get? (ofPairs pairs) name = (given pairs name).getLast? := by
  rw [ofPairs, get?_putAll]
  exact Option.or_none

theorem given_eq_nil_iff {pairs : List (String × α)} {name : String} :
    given pairs name = [] ↔ ∀ pair ∈ pairs, pair.1 ≠ name := by
  simp [given]

/-- The last value of a name stands in a pair after which the name does not come again. -/
theorem exists_of_getLast?_given {pairs : List (String × α)} {name : String} {value : α}
    (last : (given pairs name).getLast? = some value) :
    ∃ before after, pairs = before ++ (name, value) :: after ∧ ∀ later ∈ after, later.1 ≠ name := by
  induction pairs with
  | nil => cases last
  | cons pair rest ih =>
    obtain ⟨key, first⟩ := pair
    -- The pair in front counts only if the name does not come again.
    by_cases again : given rest name = []
    · rw [given_cons] at last
      split at last
      · rename_i same
        rw [again] at last
        cases last
        exact ⟨[], rest, by rw [same]; rfl, given_eq_nil_iff.mp again⟩
      · rw [again] at last
        cases last
    · have later : (given rest name).getLast? = some value := by
        rw [given_cons] at last
        split at last
        · rwa [List.getLast?_cons_of_ne_nil again] at last
        · exact last
      obtain ⟨before, after, rfl, final⟩ := ih later
      exact ⟨(key, first) :: before, after, rfl, final⟩

theorem find?_names_putAll (entries : Entries α) (pairs : List (String × α))
    (wanted : String → Bool) :
    (names (putAll entries pairs)).find? wanted =
      ((names entries).find? wanted).or ((names pairs).find? wanted) := by
  induction pairs generalizing entries with
  | nil => simp [names]
  | cons pair rest ih =>
    obtain ⟨name, value⟩ := pair
    rw [putAll_cons, ih, names_put, names_cons]
    by_cases hit : wanted name = true
    · rw [List.find?_cons_of_pos hit]
      split
      · rename_i known
        obtain ⟨first, found⟩ := Option.isSome_iff_exists.mp
          (List.find?_isSome.mpr ⟨name, known, hit⟩)
        simp [found]
      · simp [List.find?_append, hit]
    · rw [List.find?_cons_of_neg hit]
      split
      · rfl
      · simp [List.find?_append, hit]

/-- A name keeps the place where it first came, so the first name of a kind stays the first. -/
theorem find?_names_ofPairs (pairs : List (String × α)) (wanted : String → Bool) :
    (names (ofPairs pairs)).find? wanted = (names pairs).find? wanted :=
  find?_names_putAll [] pairs wanted

def mapValues (change : α → β) (entries : Entries α) : Entries β :=
  entries.map fun entry => (entry.1, change entry.2)

@[simp] theorem names_mapValues (change : α → β) (entries : Entries α) :
    names (mapValues change entries) = names entries := by
  simp [names, mapValues]

theorem get?_mapValues (change : α → β) (entries : Entries α) (name : String) :
    get? (mapValues change entries) name = (get? entries name).map change := by
  induction entries with
  | nil => rfl
  | cons entry rest ih =>
    obtain ⟨key, value⟩ := entry
    rw [mapValues, List.map_cons, get?, get?]
    split
    · rfl
    · exact ih

theorem mapValues_eq_self_iff {change : α → α} {entries : Entries α} :
    mapValues change entries = entries ↔ ∀ entry ∈ entries, change entry.2 = entry.2 := by
  induction entries with
  | nil => simp [mapValues]
  | cons entry rest ih =>
    obtain ⟨name, value⟩ := entry
    simp only [mapValues] at ih
    simp [mapValues, ih]

theorem mapValues_eq_singleton_iff {change : α → β} {entries : Entries α} {name : String}
    {value : β} :
    mapValues change entries = [(name, value)] ↔
      ∃ source, entries = [(name, source)] ∧ change source = value := by
  rw [mapValues, List.map_eq_singleton_iff]
  constructor
  · rintro ⟨⟨key, source⟩, rfl, same⟩
    rw [Prod.mk.injEq] at same
    exact ⟨source, by rw [← same.1], same.2⟩
  · rintro ⟨source, rfl, rfl⟩
    exact ⟨(name, source), rfl, rfl⟩

theorem put_mapValues (change : α → β) (entries : Entries α) (name : String) (value : α) :
    put (mapValues change entries) name (change value) =
      mapValues change (put entries name value) := by
  induction entries with
  | nil => rfl
  | cons entry rest ih =>
    obtain ⟨key, old⟩ := entry
    simp only [mapValues, List.map_cons, put] at ih ⊢
    split
    · rfl
    · rw [ih, List.map_cons]

theorem putAll_mapValues (change : α → β) (entries : Entries α) (pairs : List (String × α)) :
    putAll (mapValues change entries) (mapValues change pairs) =
      mapValues change (putAll entries pairs) := by
  induction pairs generalizing entries with
  | nil => rfl
  | cons pair rest ih =>
    have step := put_mapValues change entries pair.1 pair.2
    rw [putAll_cons, ← ih, ← step]
    rfl

theorem ofPairs_mapValues (change : α → β) (pairs : List (String × α)) :
    ofPairs (mapValues change pairs) = mapValues change (ofPairs pairs) :=
  putAll_mapValues change [] pairs

end Entries

end UniversalQuery
