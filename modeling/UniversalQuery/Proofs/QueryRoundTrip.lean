import UniversalQuery.Proofs.Outcomes
import UniversalQuery.Proofs.ValueRoundTrip
import UniversalQuery.Query.Encoding

set_option autoImplicit false

/-! Queries on their way to JSON and back. A condition is read key by key, so it stays a document
even where it looks like an instant; an order is written as maps of one key, which keep every
entry. -/

namespace UniversalQuery

/-! ## Records -/

theorem Record.ofMembers?_of_nodup {α : Type} (fields : List String) {members : List (String × α)}
    (distinct : (Entries.names members).Nodup) :
    Record.ofMembers? fields members = some (fields.map (Entries.get? members)) := by
  have known : (Entries.names (members.filter fun member => member.1 ∈ fields)).Nodup :=
    distinct.sublist (List.filter_sublist.map Prod.fst)
  rw [Record.ofMembers?, Entries.firstRepeated?_eq_none_iff.mpr known]
  rfl

/-! ## Conditions -/

namespace Value

private theorem names_toJsonFields (fields : Document) :
    Entries.names (toJsonFields fields) = Entries.names fields := by
  rw [toJsonFields_eq_map, Entries.names, List.map_map]
  rfl

/-- The JSON form of a value has no keys to merge. -/
theorem merged_toJson {value : Value} (distinct : value.hasDistinctKeys = true) :
    value.toJson.merged = value.toJson := by
  induction value using nestedInduction with
  | null | bool | int | string | date => rfl
  | float number =>
    rw [toJson, floatToJson]
    split <;> rfl
  | array items ih =>
    have each := hasDistinctKeys_array_iff.mp distinct
    rw [toJson, toJsonItems_eq_map, Json.merged, Json.mergedItems_eq_map, List.map_map]
    refine congrArg Json.array (List.map_congr_left fun item member => ?_)
    exact ih item member (each item member)
  | object fields ih =>
    obtain ⟨names, values⟩ := hasDistinctKeys_object_iff.mp distinct
    have unchanged : Json.mergedMembers (toJsonFields fields) = toJsonFields fields := by
      rw [Json.mergedMembers_eq_map, toJsonFields_eq_map, List.map_map]
      refine List.map_congr_left fun field member => ?_
      exact congrArg (Prod.mk field.1) (ih field member (values field member))
    rw [← names_toJsonFields] at names
    rw [toJson, Json.merged, unchanged, Entries.ofPairs_of_nodup names]

end Value

theorem Document.ofMembers_toJsonFields {document : Document}
    (distinct : (Value.object document).hasDistinctKeys = true)
    (survive : ∀ field ∈ document, field.2.throughJson = field.2) :
    Document.ofMembers (Value.toJsonFields document) = document := by
  obtain ⟨names, values⟩ := Value.hasDistinctKeys_object_iff.mp distinct
  have unchanged : Entries.mapValues (fun value => Value.ofJson value.toJson.merged) document =
      document := by
    rw [Entries.mapValues_eq_self_iff]
    intro field member
    rw [Value.merged_toJson (values field member)]
    exact survive field member
  rw [Document.ofMembers, Value.toJsonFields_eq_map, List.map_map]
  exact (congrArg Entries.ofPairs unchanged).trans (Entries.ofPairs_of_nodup names)

/-! ## Orders -/

namespace OrderEntry

/-- A member of a map that spells an entry. -/
def Spells (member : String × Json) (entry : OrderEntry) : Prop :=
  member.1 = entry.field ∧ Direction.ofJson? member.2 = some entry.direction

private theorem spells_iff {member : String × Json} {direction : String × Direction} :
    (Direction.ofJson? member.2).map (member.1, ·) = some direction ↔
      Spells member ⟨direction.1, direction.2⟩ := by
  obtain ⟨field, way⟩ := direction
  rw [Option.map_eq_some_iff, Spells]
  constructor
  · rintro ⟨found, read, same⟩
    cases same
    exact ⟨rfl, read⟩
  · rintro ⟨named, read⟩
    exact ⟨way, read, congrArg (·, way) named⟩

theorem ofMembers?_eq_some_iff {members : List (String × Json)}
    (distinct : (Entries.names members).Nodup) {entries : List OrderEntry} :
    ofMembers? members = some entries ↔ List.Forall₂ Spells members entries := by
  have merge {directions : Entries Direction}
      (each : List.Forall₂ (fun member direction =>
        Spells member ⟨direction.1, direction.2⟩) members directions) :
      Entries.ofPairs directions = directions := by
    have named := each.imp fun _ _ spelled => spelled.1
    have names : Entries.names members = Entries.names directions := by
      rw [← List.forall₂_eq_eq_eq]
      exact List.forall₂_map_left_iff.mpr (List.forall₂_map_right_iff.mpr named)
    exact Entries.ofPairs_of_nodup (names ▸ distinct)
  constructor
  · intro read
    obtain ⟨directions, spelled, same⟩ := Option.bind_eq_some_iff.mp read
    have each := (mapM_eq_some_iff.mp spelled).imp fun _ _ => spells_iff.mp
    rw [merge each] at same
    cases same
    exact List.forall₂_map_right_iff.mpr each
  · intro each
    have paired : List.Forall₂ (fun member direction => Spells member ⟨direction.1, direction.2⟩)
        members (entries.map fun entry => (entry.field, entry.direction)) :=
      List.forall₂_map_right_iff.mpr each
    have spelled := mapM_eq_some_iff.mpr (paired.imp fun _ _ => spells_iff.mpr)
    rw [ofMembers?, spelled]
    change some _ = _
    rw [merge paired, List.map_map]
    exact congrArg some (List.map_id entries)

/-- The entries of a list of maps are those of the maps, one after the other. -/
theorem listOfJson?_maps_eq_some_iff {maps : List (List (String × Json))}
    (distinct : ∀ members ∈ maps, (Entries.names members).Nodup) {entries : List OrderEntry} :
    listOfJson? (.array (maps.map .object)) = some entries ↔
      ∃ orders, List.Forall₂ (List.Forall₂ Spells) maps orders ∧ entries = orders.flatten := by
  rw [listOfJson?, Option.map_eq_some_iff]
  refine exists_congr fun orders => and_congr ?_ eq_comm
  rw [mapM_eq_some_iff, List.forall₂_map_left_iff]
  constructor
  · intro each
    refine ((List.forall₂_and_left _ _).mpr ⟨distinct, each⟩).imp ?_
    rintro members order ⟨apart, read⟩
    exact (ofMembers?_eq_some_iff apart).mp read
  · intro each
    refine ((List.forall₂_and_left _ _).mpr ⟨distinct, each⟩).imp ?_
    rintro members order ⟨apart, spelled⟩
    exact (ofMembers?_eq_some_iff apart).mpr spelled

/-- Maps of one key each spell the entries that their keys spell together. -/
theorem listOfJson?_singletons_eq_some_iff {members : List (String × Json)}
    {entries : List OrderEntry} :
    listOfJson? (.array (members.map fun member => .object [member])) = some entries ↔
      List.Forall₂ Spells members entries := by
  have maps : (members.map fun member => Json.object [member]) =
      (members.map ([·])).map .object := by
    rw [List.map_map]
    rfl
  rw [maps, listOfJson?_maps_eq_some_iff]
  · constructor
    · rintro ⟨orders, each, rfl⟩
      have joined := List.rel_flatten each
      rwa [← List.flatMap_def, List.flatMap_singleton'] at joined
    · intro each
      refine ⟨entries.map ([·]), ?_, (List.flatMap_singleton' entries).symm⟩
      rw [List.forall₂_map_left_iff, List.forall₂_map_right_iff]
      exact each.imp fun _ _ spelled => .cons spelled .nil
  · rw [List.forall_mem_map]
    exact fun member _ => List.pairwise_singleton _ member.1

/-- One map is read as the list of its keys with their directions. -/
theorem listOfJson?_singletons {members : List (String × Json)}
    (distinct : (Entries.names members).Nodup) :
    listOfJson? (.array (members.map fun member => .object [member])) =
      listOfJson? (.object members) := by
  refine Option.ext fun entries => ?_
  rw [listOfJson?_singletons_eq_some_iff]
  exact (ofMembers?_eq_some_iff distinct).symm

end OrderEntry

theorem Direction.ofJson?_keyword (direction : Direction) :
    Direction.ofJson? (.string direction.keyword) = some direction := by
  cases direction <;> decide

namespace Query

private theorem listOfJson?_orderToJson (order : List OrderEntry) :
    OrderEntry.listOfJson? (orderToJson order) = some order := by
  have maps : orderToJson order =
      .array ((order.map fun entry => (entry.field, Json.string entry.direction.keyword)).map
        fun member => .object [member]) := by
    rw [orderToJson, List.map_map]
    rfl
  rw [maps, OrderEntry.listOfJson?_singletons_eq_some_iff, List.forall₂_map_left_iff,
    List.forall₂_same]
  exact fun entry _ => ⟨rfl, Direction.ofJson?_keyword entry.direction⟩

/-! ## Queries -/

/-- The keys of every object in the condition are distinct, as those of a map are, and the values of
the condition come back from JSON. -/
def Survives (query : Query) : Prop :=
  ∀ document ∈ query.condition, (Value.object document).hasDistinctKeys = true ∧
    ∀ field ∈ document, field.2.throughJson = field.2

private theorem part?_map {α : Type} {read : Json → Option α} {write : α → Json} {given : Option α}
    (decoded : ∀ value ∈ given, write value ≠ .null ∧ read (write value) = some value) :
    part? read (given.map write) = some given := by
  cases given with
  | none => rfl
  | some value =>
    obtain ⟨present, decodes⟩ := decoded value rfl
    rw [Option.map_some, part?, decodes, Option.map_some]
    exact present

/-- Absent parts are not written, so the parts are found as they were. -/
theorem ofJson?_toJson_eq (query : Query) :
    ofJson? query.toJson =
      ofParts? [query.condition.map fun document => (Value.object document).toJson,
        query.order.map orderToJson] := by
  obtain ⟨condition, order⟩ := query
  have distinct : ["where", "order"].Nodup := by decide
  rw [toJson, ofJson?, Record.ofMembers?_of_nodup]
  · cases condition <;> cases order <;> rfl
  · cases condition <;> cases order
    · exact List.nodup_nil
    · exact List.pairwise_singleton _ _
    · exact List.pairwise_singleton _ _
    · exact distinct

theorem ofJson?_toJson {query : Query} (survives : query.Survives) :
    ofJson? query.toJson = some query := by
  have condition : part? Document.ofJson?
      (query.condition.map fun document => (Value.object document).toJson) =
        some query.condition := by
    refine part?_map fun document given => ?_
    obtain ⟨distinct, values⟩ := survives document given
    rw [Value.toJson, Document.ofJson?, Document.ofMembers_toJsonFields distinct values]
    exact ⟨Json.noConfusion, rfl⟩
  have order : part? OrderEntry.listOfJson? (query.order.map orderToJson) = some query.order :=
    part?_map fun entries _ => ⟨Json.noConfusion, listOfJson?_orderToJson entries⟩
  rw [ofJson?_toJson_eq, ofParts?, condition, order]
  rfl

/-- What is written for a query is read as the query. A list of maps is read as the entries of the
maps one after the other, and one map as the list of its keys. -/
theorem json_roundTrip :
    (∀ query : Query, query.Survives → ofJson? query.toJson = some query) ∧
      (∀ maps : List (List (String × Json)),
        (∀ members ∈ maps, (Entries.names members).Nodup) → ∀ entries : List OrderEntry,
          (OrderEntry.listOfJson? (.array (maps.map .object)) = some entries ↔
            ∃ orders, List.Forall₂ (List.Forall₂ OrderEntry.Spells) maps orders ∧
              entries = orders.flatten)) ∧
      ∀ members : List (String × Json), (Entries.names members).Nodup →
        OrderEntry.listOfJson? (.object members) =
          OrderEntry.listOfJson? (.array (members.map fun member => .object [member])) := by
  refine ⟨fun query => ofJson?_toJson, fun maps distinct entries => ?_, fun members distinct => ?_⟩
  · exact OrderEntry.listOfJson?_maps_eq_some_iff distinct
  · exact (OrderEntry.listOfJson?_singletons distinct).symm

/-- A condition that looks like an instant, with an order that repeats a field. -/
def lookalike : Query where
  condition := some [(Value.dateKey, .string "2001-02-11T00:00:00Z")]
  order := some [⟨"age", .ascending⟩, ⟨"age", .descending⟩]

def ageAndName : List (String × Json) :=
  [("age", .string "ASC"), ("name", .string "desc")]

def ageAlone : List (String × Json) :=
  [("age", .object [("DESC", .null)])]

theorem json_roundTrip_lookalike :
    lookalike.Survives ∧ ofJson? lookalike.toJson = some lookalike ∧
      (∀ members ∈ [ageAndName, ageAlone], (Entries.names members).Nodup) ∧
      OrderEntry.listOfJson? (.array [.object ageAndName, .object ageAlone]) =
        some [⟨"age", .ascending⟩, ⟨"name", .descending⟩, ⟨"age", .descending⟩] ∧
      OrderEntry.listOfJson? (.object ageAndName) =
        OrderEntry.listOfJson? (.array (ageAndName.map fun member => .object [member])) := by
  have survives : lookalike.Survives := by
    intro document given
    cases Option.some.inj given
    exact ⟨by decide, List.forall_mem_singleton.mpr rfl⟩
  have distinct : ∀ members ∈ [ageAndName, ageAlone], (Entries.names members).Nodup := by decide
  have both : List.Forall₂ OrderEntry.Spells ageAndName
      [⟨"age", .ascending⟩, ⟨"name", .descending⟩] :=
    .cons ⟨rfl, by decide⟩ (.cons ⟨rfl, by decide⟩ .nil)
  have last : List.Forall₂ OrderEntry.Spells ageAlone [⟨"age", .descending⟩] :=
    .cons ⟨rfl, by decide⟩ .nil
  obtain ⟨queries, lists, maps⟩ := json_roundTrip
  refine ⟨survives, queries lookalike survives, distinct, ?_, maps ageAndName (by decide)⟩
  exact (lists [ageAndName, ageAlone] distinct _).mpr ⟨_, .cons both (.cons last .nil), rfl⟩

end Query

end UniversalQuery
