import UniversalQuery.Proofs.Sql.AttributePath
import UniversalQuery.Proofs.Sql.UnknownFields

set_option autoImplicit false

/-! The items of an order. Every entry on a known field has one, in order, and refers to its field
as a condition on the same key does. A reference into a column can be read back. -/

namespace UniversalQuery

/-! ## Dotted keys -/

namespace FieldPath

/-- Cutting a key at its first dot, and what follows at all dots, is cutting it at all dots. -/
theorem ofKey_dotted {root : String} (solid : '.' ∉ root.toList) (rest : String) :
    ofKey (root ++ "." ++ rest) = ⟨root, parts rest⟩ := by
  have cut : cutAtDots [] (root ++ "." ++ rest).toList =
      root.toList :: cutAtDots [] rest.toList := by
    have first : cutAtDots [] (root.toList ++ '.' :: rest.toList) = _ :=
      cutAtDots_append solid rest.toList
    rw [List.reverse_nil, List.nil_append] at first
    simpa using first
  rw [ofKey, cut, parts_eq_map]
  simp

end FieldPath

namespace Sql

variable {schema : Schema} {policy : UnknownFields}

/-! ## Known entries -/

def isKnownEntry (schema : Schema) (entry : OrderEntry) : Bool :=
  (schema.fieldType? (rootField entry.field)).isSome

/-- Rejecting stops at the first entry on an unknown field. -/
theorem knownOrder_reject_eq (entries : List OrderEntry) :
    knownOrder schema .reject entries =
      match entries.find? fun entry => !isKnownEntry schema entry with
      | none => .ok entries
      | some entry => .error (.unresolvableField entry.field) := by
  induction entries with
  | nil => rfl
  | cons entry rest ih =>
    by_cases known : (schema.fieldType? (rootField entry.field)).isSome = true
    · rw [List.find?_cons_of_neg (by simp [isKnownEntry, known])]
      simp only [knownOrder, known, ↓reduceIte, ih]
      cases rest.find? fun entry => !isKnownEntry schema entry <;> rfl
    · rw [List.find?_cons_of_pos (by simpa [isKnownEntry] using known)]
      simp only [knownOrder, known]
      rfl

theorem knownOrder_reject_eq_error_iff {entries : List OrderEntry} {error : CompileError} :
    knownOrder schema .reject entries = .error error ↔
      ∃ before entry after, entries = before ++ entry :: after ∧
        (∀ earlier ∈ before, isKnownEntry schema earlier = true) ∧
        isKnownEntry schema entry = false ∧ error = .unresolvableField entry.field := by
  rw [knownOrder_reject_eq]
  constructor
  · intro fails
    split at fails
    · cases fails
    · rename_i entry found
      cases fails
      obtain ⟨unknown, before, after, split, known⟩ := List.find?_eq_some_iff_append.mp found
      exact ⟨before, entry, after, split, by simpa using known, by simpa using unknown, rfl⟩
  · rintro ⟨before, entry, after, rfl, known, unknown, rfl⟩
    have found : (before ++ entry :: after).find? (fun entry => !isKnownEntry schema entry) =
        some entry := by
      refine List.find?_eq_some_iff_append.mpr ⟨by simpa using unknown, before, after, rfl, ?_⟩
      simpa using known
    rw [found]

/-- What is compiled of an order are its entries on known fields. -/
theorem eq_filter_of_knownOrder {entries known : List OrderEntry}
    (compiled : knownOrder schema policy entries = .ok known) :
    known = entries.filter (isKnownEntry schema) := by
  cases policy with
  | drop =>
    rw [knownOrder_drop] at compiled
    exact (Except.ok.inj compiled).symm
  | reject =>
    have all : entries.filter (isKnownEntry schema) = entries := pruneOrder_of_knownOrder compiled
    rw [knownOrder_reject_of_known (List.filter_eq_self.mp all)] at compiled
    rw [all]
    exact (Except.ok.inj compiled).symm

theorem orderClause_eq_empty_iff {entries : List OrderEntry} :
    orderClause schema entries = "" ↔ entries = [] := by
  unfold orderClause
  split
  · rename_i nothing
    exact iff_of_true rfl nothing
  · rename_i something
    exact iff_of_false (by simp) something

/-! ## References -/

private theorem pathSteps_append_singleton (inner : List String) (last : String) :
    pathSteps (inner ++ [last]) =
      String.join (inner.map fun segment => "->" ++ quote segment) ++ "->>" ++ quote last := by
  induction inner with
  | nil => simp [pathSteps]
  | cons segment rest ih =>
    have step : pathSteps (segment :: (rest ++ [last])) =
        "->" ++ quote segment ++ pathSteps (rest ++ [last]) := by
      cases rest <;> rfl
    rw [List.cons_append, step, ih, List.map_cons, String.join_cons]
    simp only [String.append_assoc]

private theorem columnReference_eq (schema : Schema) (field : String) :
    columnReference schema field = field ∨
      ∃ table, columnReference schema field = table ++ "." ++ field := by
  unfold columnReference
  split
  · split
    · exact .inr ⟨_, rfl⟩
    · exact .inl rfl
  · exact .inl rfl

/-! ## Reading references back -/

def afterLastDot (text : List Char) : List Char :=
  (text.reverse.takeWhile (· != '.')).reverse

/-- The key of a reference into a column. The column stands behind the last dot and before the dash
of the first operator. -/
def readDottedKey? (text : String) : Option String :=
  let reference := afterLastDot text.toList
  let root := (reference.takeWhile (· != '>')).dropLast
  (readSteps? (String.ofList (reference.drop root.length))).map fun segments =>
    (FieldPath.mk (String.ofList root) segments).key

theorem afterLastDot_eq {text : List Char} (solid : '.' ∉ text) : afterLastDot text = text := by
  have whole : text.reverse.takeWhile (· != '.') = text.reverse := by
    refine List.takeWhile_eq_self_iff.mpr fun c member => bne_iff_ne.mpr ?_
    rintro rfl
    exact solid (List.mem_reverse.mp member)
  rw [afterLastDot, whole, List.reverse_reverse]

private theorem afterLastDot_append {text : List Char} (solid : '.' ∉ text) (before : List Char) :
    afterLastDot (before ++ '.' :: text) = text := by
  have whole := afterLastDot_eq solid
  have dotless : ∀ c ∈ text.reverse, (c != '.') = true := by
    intro c member
    refine bne_iff_ne.mpr ?_
    rintro rfl
    exact solid (List.mem_reverse.mp member)
  rw [afterLastDot, List.reverse_append, List.reverse_cons, List.append_assoc,
    List.takeWhile_append_of_pos dotless]
  simp

private theorem dot_not_mem_quote {text : String} (solid : '.' ∉ text.toList) :
    '.' ∉ (quote text).toList := by
  have inside : '.' ∉ escapeChars text.toList := by
    generalize text.toList = chars at solid
    induction chars with
    | nil => exact solid
    | cons c rest ih =>
      rw [List.mem_cons, not_or] at solid
      have later := ih solid.2
      rw [escapeChars]
      split
      · simp [later]
      · simp [solid.1, later]
  simp [quote, escape, inside]

private theorem dot_not_mem_pathSteps {segments : List String}
    (solid : ∀ segment ∈ segments, '.' ∉ segment.toList) : '.' ∉ (pathSteps segments).toList := by
  induction segments with
  | nil => simp [pathSteps]
  | cons segment rest ih =>
    obtain ⟨first, others⟩ := List.forall_mem_cons.mp solid
    have quoted := dot_not_mem_quote first
    have later := ih others
    cases rest with
    | nil => simp [pathSteps, quoted]
    | cons next rest => simp [pathSteps, quoted, later]

private theorem exists_pathSteps_eq {segments : List String} (nonempty : segments ≠ []) :
    ∃ rest, (pathSteps segments).toList = '-' :: '>' :: rest := by
  match segments, nonempty with
  | [segment], _ => exact ⟨_, by simp [pathSteps]; rfl⟩
  | segment :: next :: rest, _ => exact ⟨_, by simp [pathSteps]; rfl⟩

/-- Whether the table is named or not, a reference says which key it is of. -/
theorem readDottedKey?_reference {path : FieldPath} (nonempty : path.segments ≠ [])
    (arrowless : '>' ∉ path.root.toList) (solid : '.' ∉ path.root.toList)
    (segments : ∀ segment ∈ path.segments, '.' ∉ segment.toList) :
    readDottedKey? (reference schema path) = some path.key := by
  have dotless : '.' ∉ path.root.toList ++ (pathSteps path.segments).toList := by
    rw [List.mem_append, not_or]
    exact ⟨solid, dot_not_mem_pathSteps segments⟩
  have behind : afterLastDot (reference schema path).toList =
      path.root.toList ++ (pathSteps path.segments).toList := by
    unfold reference
    obtain bare | ⟨table, qualified⟩ := columnReference_eq schema path.root
    · rw [bare, String.toList_append, afterLastDot_eq dotless]
    · have text : (columnReference schema path.root ++ pathSteps path.segments).toList =
          table.toList ++ '.' :: (path.root.toList ++ (pathSteps path.segments).toList) := by
        simp [qualified]
      rw [text, afterLastDot_append dotless]
  have root : ((path.root.toList ++ (pathSteps path.segments).toList).takeWhile
      (· != '>')).dropLast = path.root.toList := by
    obtain ⟨rest, steps⟩ := exists_pathSteps_eq nonempty
    have before : ∀ c ∈ path.root.toList, (c != '>') = true := by
      intro c member
      refine bne_iff_ne.mpr ?_
      rintro rfl
      exact arrowless member
    rw [steps, List.takeWhile_append_of_pos before]
    simp
  rw [readDottedKey?, behind, root, List.drop_left, String.ofList_toList, String.ofList_toList,
    readSteps?_pathSteps nonempty, Option.map_some]

/-! ## Orders and conditions -/

/-- The text of an order with some known entries. -/
theorem text_of_orderText {order : Option (List OrderEntry)} {text : String}
    (compiled : orderText schema policy order = .ok text) :
    orderClause schema ((order.getD []).filter (isKnownEntry schema)) = text := by
  obtain ⟨known, accepted, rfl⟩ := exists_of_map_eq_ok compiled
  rw [eq_filter_of_knownOrder accepted]

theorem exists_orderText_reject_iff {order : Option (List OrderEntry)} :
    (∃ text, orderText schema .reject order = .ok text) ↔
      ∀ entry ∈ order.getD [], isKnownEntry schema entry = true := by
  constructor
  · rintro ⟨text, compiled⟩
    obtain ⟨known, accepted, -⟩ := exists_of_map_eq_ok compiled
    exact List.filter_eq_self.mp (pruneOrder_of_knownOrder accepted)
  · intro known
    rw [orderText, knownOrder_reject_of_known known]
    exact ⟨_, rfl⟩

theorem orderText_reject_eq_error_iff {order : Option (List OrderEntry)} {error : CompileError} :
    orderText schema .reject order = .error error ↔
      ∃ before entry after, order.getD [] = before ++ entry :: after ∧
        (∀ earlier ∈ before, isKnownEntry schema earlier = true) ∧
        isKnownEntry schema entry = false ∧ error = .unresolvableField entry.field := by
  rw [← knownOrder_reject_eq_error_iff]
  constructor
  · exact eq_error_of_map_eq_error
  · intro fails
    rw [orderText, fails]
    rfl

/-- What follows the column in a reference by a dotted key: an operator for each segment, of which
the last one yields text. -/
structure IsDottedReference (schema : Schema) (root rest : String) (text : String) : Prop where
  spelled : ∃ inner last, ".".intercalate (inner ++ [last]) = rest ∧
    (∀ segment ∈ inner ++ [last], '.' ∉ segment.toList) ∧
    text = columnReference schema root ++
      String.join (inner.map fun segment => "->" ++ quote segment) ++ "->>" ++ quote last
  /-- A condition on the same key has the same reference. -/
  condition : ∀ policy value, (schema.fieldType? root).isSome = true →
    predicateText schema policy [(root ++ "." ++ rest, value)] =
      .ok (text ++ "=" ++ quote (textOf value))
  readable : '>' ∉ root.toList → readDottedKey? text = some (root ++ "." ++ rest)

theorem isDottedReference {root : String} (solid : '.' ∉ root.toList) (rest : String) :
    IsDottedReference schema root rest
      (reference schema (.ofKey (root ++ "." ++ rest))) := by
  have cut := FieldPath.ofKey_dotted solid rest
  have nonempty : FieldPath.parts rest ≠ [] := List.cons_ne_nil _ _
  have segments : ∀ segment ∈ FieldPath.parts rest, '.' ∉ segment.toList :=
    fun segment => FieldPath.dot_not_mem_of_mem_parts
  refine ⟨?_, ?_, ?_⟩
  · obtain ⟨inner, last, split⟩ : ∃ inner last, FieldPath.parts rest = inner ++ [last] :=
      ⟨_, _, (List.dropLast_append_getLast nonempty).symm⟩
    rw [split] at segments
    refine ⟨inner, last, ?_, segments, ?_⟩
    · rw [← split, FieldPath.intercalate_parts]
    · rw [cut, reference, split, pathSteps_append_singleton]
      simp only [String.append_assoc]
  · intro policy value known
    rw [cut]
    exact predicateText_path value cut (by simpa [FieldPath.isPlain] using nonempty) known
  · intro arrowless
    have read : readDottedKey? (reference schema ⟨root, FieldPath.parts rest⟩) = _ :=
      readDottedKey?_reference nonempty arrowless solid segments
    rw [cut, read, ← cut, FieldPath.key_ofKey]

/-- An order compiles under rejection exactly if all its fields are known, and otherwise the first
unknown one is reported. What compiles has an item for each entry on a known field, in order. The
items refer to their fields as conditions do. -/
theorem order_refers_as_conditions (schema : Schema) :
    (∀ order, (∃ text, orderText schema .reject order = .ok text) ↔
      ∀ entry ∈ order.getD [], isKnownEntry schema entry = true) ∧
    (∀ order error, orderText schema .reject order = .error error ↔
      ∃ before entry after, order.getD [] = before ++ entry :: after ∧
        (∀ earlier ∈ before, isKnownEntry schema earlier = true) ∧
        isKnownEntry schema entry = false ∧ error = .unresolvableField entry.field) ∧
    (∀ order, ∃ text, orderText schema .drop order = .ok text) ∧
    (∀ policy order text, orderText schema policy order = .ok text →
      (text = "" ↔ ∀ entry ∈ order.getD [], isKnownEntry schema entry = false) ∧
      (text ≠ "" → text = " ORDER BY " ++ ", ".intercalate
        (((order.getD []).filter (isKnownEntry schema)).map fun entry =>
          reference schema (.ofKey entry.field) ++ " " ++ entry.direction.keyword))) ∧
    (∀ field, '.' ∉ field.toList →
      reference schema (.ofKey field) = columnReference schema field) ∧
    ∀ root rest, '.' ∉ root.toList →
      IsDottedReference schema root rest
        (reference schema (.ofKey (root ++ "." ++ rest))) := by
  refine ⟨fun order => exists_orderText_reject_iff, fun order error =>
    orderText_reject_eq_error_iff, ?_, ?_, ?_, fun root rest solid => isDottedReference solid rest⟩
  · intro order
    rw [orderText, knownOrder_drop]
    exact ⟨_, rfl⟩
  · intro policy order text compiled
    have written := text_of_orderText compiled
    subst written
    refine ⟨?_, fun visible => ?_⟩
    · rw [orderClause_eq_empty_iff, List.filter_eq_nil_iff]
      simp only [Bool.not_eq_true]
    · rw [ne_eq, orderClause_eq_empty_iff] at visible
      rw [orderClause, if_neg visible]
      rfl
  · intro field solid
    have plain := FieldPath.isPlain_iff.mpr solid
    rw [FieldPath.isPlain, List.isEmpty_iff] at plain
    have whole := FieldPath.rootField_of_not_mem solid
    rw [rootField] at whole
    rw [reference, plain, whole, pathSteps, String.append_empty]

/-- A repeated entry, an unknown field, and a path with empty segments and a quote in it. -/
def oddOrder : List OrderEntry :=
  [⟨"age", .descending⟩, ⟨"salary.net", .ascending⟩, ⟨"job..a'b.", .ascending⟩,
    ⟨"age", .descending⟩]

theorem order_refers_as_conditions_oddOrder :
    orderText people.schema .drop (some oddOrder) =
      .ok " ORDER BY age DESC, job->''->'a''b'->>'' ASC, age DESC" ∧
    orderText people.schema .reject (some oddOrder) = .error (.unresolvableField "salary.net") ∧
    predicateText people.schema .reject [("job" ++ "." ++ ".a'b.", .string "x")] =
      .ok ("job->''->'a''b'->>''" ++ "=" ++ quote "x") ∧
    readDottedKey? "job->''->'a''b'->>''" = some "job..a'b." := by
  obtain ⟨-, refused, -, -, -, dotted⟩ := order_refers_as_conditions people.schema
  have text : reference people.schema (.ofKey ("job" ++ "." ++ ".a'b.")) =
      "job->''->'a''b'->>''" := by decide +kernel
  have read := dotted "job" ".a'b." (by decide)
  rw [text] at read
  refine ⟨by decide +kernel, (refused _ _).mpr ?_, read.condition .reject _ (by decide),
    read.readable (by decide)⟩
  exact ⟨[⟨"age", .descending⟩], ⟨"salary.net", .ascending⟩, _, rfl, by decide, by decide, rfl⟩

end Sql

end UniversalQuery
