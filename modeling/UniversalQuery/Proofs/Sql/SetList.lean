import UniversalQuery.Proofs.Sql.AttributePath
import UniversalQuery.Proofs.Sql.InsertedColumns
import UniversalQuery.Proofs.Sql.UpdateExpression

set_option autoImplicit false

/-! The list of assignments of an update. The keys of the record that name columns come first, then
one expression for each JSON column with dotted keys, which makes the changes of all these keys in
the order of the record. -/

namespace UniversalQuery.Sql

/-! ## Fields that an update looks at -/

/-- The fields of a record in snake case, without the primary key of a table. -/
def assignableFields (table : Table) (record : Document) : Document :=
  record.snakeCased.filter fun field => field.1 != table.primaryKey

/-- Whether a field gives a value to a column as a whole. -/
def givesColumn (table : Table) (field : String × Value) : Bool :=
  decide ('.' ∉ field.1.toList) && table.declares field.1

/-- Whether a field gives a value to a part of a JSON column. -/
def givesPart (table : Table) (column : String) (field : String × Value) : Bool :=
  decide ('.' ∈ field.1.toList) && rootField field.1 == column &&
    table.fieldType? column == some .json

/-- The value of a column after fields gave values to parts of it, one after the other. -/
def afterParts {α : Type} (set : α → String → String → α) (own : α) (fields : Document) : α :=
  fields.foldl (fun value field => set value (pathText (FieldPath.ofKey field.1).segments)
    field.2.toPlainJson.compact) own

variable {model : Model} {table : Table} {fields : Document} {column : String}

private theorem givesColumn_iff {field : String × Value} :
    givesColumn table field = true ↔ '.' ∉ field.1.toList ∧ table.declares field.1 = true := by
  simp [givesColumn]

theorem givesPart_iff {field : String × Value} :
    givesPart table column field = true ↔
      '.' ∈ field.1.toList ∧ rootField field.1 = column ∧ table.fieldType? column = some .json := by
  simp [givesPart, and_assoc]

theorem ofPlain?_eq (field : String × Value) :
    Assignment.ofPlain? model.schema field =
      if '.' ∉ field.1.toList then
        (model.target.fieldType? field.1).map fun type => .plain field.1 type field.2
      else none := by
  simp only [Assignment.ofPlain?, FieldPath.isPlain_iff]
  rfl

theorem attribute?_eq (field : String × Value) :
    Assignment.attribute? model.schema field =
      if givesPart model.target (rootField field.1) field then
        some (rootField field.1, ⟨(FieldPath.ofKey field.1).segments, field.2⟩)
      else none := by
  simp only [Assignment.attribute?, FieldPath.isPlain_iff, givesPart_iff]
  by_cases dotted : '.' ∈ field.1.toList
  · simp [dotted]
    rfl
  · simp [dotted]

/-! ## Plain assignments -/

/-- The text of an assignment to a column as a whole. -/
inductive PlainText (table : Table) : String × Value → String → Prop where
  | intro {key : String} {value : Value} {type : FieldType} :
      table.fieldType? key = some type →
      PlainText table (key, value) (key ++ "=" ++ literal type value)

private theorem forall₂_plainText (model : Model) (fields : Document) :
    List.Forall₂ (PlainText model.target) (fields.filter (givesColumn model.target))
      ((fields.filterMap (Assignment.ofPlain? model.schema)).map Assignment.text) := by
  induction fields with
  | nil => exact .nil
  | cons field rest ih =>
    by_cases gives : givesColumn model.target field = true
    · obtain ⟨plain, declared⟩ := givesColumn_iff.mp gives
      obtain ⟨type, typed⟩ := Option.isSome_iff_exists.mp declared
      have typed : model.target.fieldType? field.1 = some type := typed
      have assigned : Assignment.ofPlain? model.schema field =
          some (.plain field.1 type field.2) := by
        rw [ofPlain?_eq, if_pos plain, typed, Option.map_some]
      rw [List.filter_cons_of_pos gives, List.filterMap_cons_some assigned, List.map_cons]
      exact .cons (.intro typed) ih
    · have skipped : Assignment.ofPlain? model.schema field = none := by
        rw [ofPlain?_eq]
        split
        · rename_i plain
          rw [givesColumn_iff, not_and] at gives
          have undeclared : model.target.fieldType? field.1 = none :=
            Option.not_isSome_iff_eq_none.mp (gives plain)
          rw [undeclared, Option.map_none]
        · rfl
      rw [List.filter_cons_of_neg gives, List.filterMap_cons_none skipped]
      exact ih

/-! ## Assignments of parts -/

theorem names_grouped (changes : List (String × AttributeUpdate)) :
    Entries.names (Assignment.grouped changes) = Entries.names (Entries.ofPairs changes) := by
  have kept : ∀ (groups : Entries (List AttributeUpdate)) (entries : Entries AttributeUpdate),
      Entries.names groups = Entries.names entries →
      Entries.names (changes.foldl Assignment.addAttribute groups) =
        Entries.names (Entries.putAll entries changes) := by
    induction changes with
    | nil => exact fun _ _ same => same
    | cons change rest ih =>
      intro groups entries same
      rw [List.foldl_cons, Entries.putAll_cons]
      refine ih _ _ ?_
      rw [Assignment.addAttribute, Entries.names_put, Entries.names_put, same]
  exact kept [] [] rfl

theorem attribute?_of_givesPart {field : String × Value}
    (gives : givesPart model.target column field = true) :
    Assignment.attribute? model.schema field =
      some (column, ⟨(FieldPath.ofKey field.1).segments, field.2⟩) := by
  obtain ⟨-, rfl, -⟩ := givesPart_iff.mp gives
  rw [attribute?_eq, if_pos gives]

/-- A field that makes a change gives a value to a part of one column, and of no other. -/
theorem givesPart_of_attribute? {field : String × Value} {change : String × AttributeUpdate}
    (changes : Assignment.attribute? model.schema field = some change) :
    givesPart model.target change.1 field = true ∧
      change.2 = ⟨(FieldPath.ofKey field.1).segments, field.2⟩ ∧
      ∀ column, column ≠ change.1 → givesPart model.target column field = false := by
  rw [attribute?_eq] at changes
  split at changes
  · rename_i gives
    cases changes
    refine ⟨gives, rfl, fun column different => ?_⟩
    simp [givesPart, Ne.symm different]
  · cases changes

theorem givesPart_eq_false_of_attribute? {field : String × Value}
    (unchanged : Assignment.attribute? model.schema field = none) (column : String) :
    givesPart model.target column field = false := by
  rw [Bool.eq_false_iff]
  intro gives
  rw [attribute?_of_givesPart gives] at unchanged
  cases unchanged

/-- The changes of a column are those of the fields that give values to its parts, in order. -/
theorem changes_of_column (fields : Document) (column : String) :
    ((fields.filterMap (Assignment.attribute? model.schema)).filter (·.1 == column)).map Prod.snd =
      (fields.filter (givesPart model.target column)).map fun field =>
        ⟨(FieldPath.ofKey field.1).segments, field.2⟩ := by
  induction fields with
  | nil => rfl
  | cons field rest ih =>
    cases changes : Assignment.attribute? model.schema field with
    | none =>
      have apart := givesPart_eq_false_of_attribute? changes column
      simp [List.filterMap_cons_none changes, apart, ih]
    | some change =>
      obtain ⟨gives, update, others⟩ := givesPart_of_attribute? changes
      by_cases same : change.1 = column
      · subst same
        simp [List.filterMap_cons_some changes, gives, update, ih]
      · have apart := others column (Ne.symm same)
        simp [List.filterMap_cons_some changes, same, apart, ih]

private theorem mem_names_grouped_iff :
    column ∈ Entries.names
        (Assignment.grouped (fields.filterMap (Assignment.attribute? model.schema))) ↔
      ∃ field ∈ fields, givesPart model.target column field = true := by
  rw [mem_names_grouped]
  constructor
  · intro member
    obtain ⟨change, inside, rfl⟩ := List.mem_map.mp member
    obtain ⟨field, given, changes⟩ := List.mem_filterMap.mp inside
    exact ⟨field, given, (givesPart_of_attribute? changes).1⟩
  · intro giving
    obtain ⟨field, given, gives⟩ := giving
    have changes := attribute?_of_givesPart gives
    exact List.mem_map_of_mem (List.mem_filterMap.mpr ⟨field, given, changes⟩)

/-- A column whose changes start before those of another one has the first field of the two. -/
theorem findIdx_givesPart_lt {left right : String}
    (before : (Entries.names (fields.filterMap (Assignment.attribute? model.schema))).idxOf left <
      (Entries.names (fields.filterMap (Assignment.attribute? model.schema))).idxOf right) :
    fields.findIdx (givesPart model.target left) <
      fields.findIdx (givesPart model.target right) := by
  induction fields with
  | nil => cases before
  | cons field rest ih =>
    cases changes : Assignment.attribute? model.schema field with
    | none =>
      have apart := givesPart_eq_false_of_attribute? changes
      rw [List.filterMap_cons_none changes] at before
      simp [List.findIdx_cons, apart, ih before]
    | some change =>
      obtain ⟨gives, -, others⟩ := givesPart_of_attribute? changes
      rw [List.filterMap_cons_some changes, Entries.names_cons] at before
      have later : right ≠ change.1 := by
        intro same
        subst same
        simp at before
      by_cases first : left = change.1
      · subst first
        simp [List.findIdx_cons, gives, others right later]
      · rw [List.idxOf_cons_ne _ (Ne.symm first), List.idxOf_cons_ne _ (Ne.symm later)] at before
        simp [List.findIdx_cons, others left first, others right later,
          ih (Nat.lt_of_succ_lt_succ before)]

/-- What the expression of a JSON column does, whatever `jsonb_set` does. -/
def Applies (table : Table) (fields : Document) (column expression : String) : Prop :=
  ∀ {α : Type} (set : α → String → String → α) (own result : α),
    Evaluates set column own expression result ↔
      result = afterParts set own (fields.filter (givesPart table column))

private theorem applies_of_mem_grouped {group : String × List AttributeUpdate}
    (member : group ∈
      Assignment.grouped (fields.filterMap (Assignment.attribute? model.schema))) :
    Applies model.target fields group.1
      (group.2.foldl Assignment.attributeText (group.1 ++ "::jsonb")) := by
  have found := Entries.get?_of_mem (nodup_names_grouped _) member
  have updates := get?_grouped (fields.filterMap (Assignment.attribute? model.schema)) group.1
  rw [found, Option.getD_some, changes_of_column] at updates
  intro α set own result
  rw [evaluates_attributes_iff, updates, List.foldl_map]
  rfl

/-! ## The whole list -/

/-- The parts of the list of assignments that fields make: the assignments to whole columns, and
the JSON columns with their expressions. -/
structure SetList (table : Table) (fields : Document) (plain columns expressions : List String) :
    Prop where
  plain : List.Forall₂ (PlainText table) (fields.filter (givesColumn table)) plain
  complete : ∀ column,
    column ∈ columns ↔ ∃ field ∈ fields, givesPart table column field = true
  distinct : columns.Nodup
  ordered : columns.Pairwise fun left right =>
    fields.findIdx (givesPart table left) < fields.findIdx (givesPart table right)
  applied : List.Forall₂ (Applies table fields) columns expressions

private theorem setList_of_fields (model : Model) (fields : Document) :
    SetList model.target fields
      ((fields.filterMap (Assignment.ofPlain? model.schema)).map Assignment.text)
      (Entries.names (Assignment.grouped (fields.filterMap (Assignment.attribute? model.schema))))
      ((Assignment.grouped (fields.filterMap (Assignment.attribute? model.schema))).map fun group =>
        group.2.foldl Assignment.attributeText (group.1 ++ "::jsonb")) where
  plain := forall₂_plainText model fields
  complete _ := mem_names_grouped_iff
  distinct := nodup_names_grouped _
  ordered := by
    rw [names_grouped]
    exact (Entries.pairwise_names_ofPairs _).imp findIdx_givesPart_lt
  applied := by
    rw [Entries.names, List.forall₂_map_left_iff, List.forall₂_map_right_iff, List.forall₂_same]
    exact fun group => applies_of_mem_grouped

theorem exists_setList (model : Model) (record : Document) :
    ∃ plain columns expressions,
      SetList model.target (assignableFields model.target record) plain columns expressions ∧
      (assignments model.schema record).map Assignment.text =
        plain ++ List.zipWith (fun column expression => column ++ "=" ++ expression)
          columns expressions := by
  refine ⟨_, _, _, setList_of_fields model _, ?_⟩
  rw [Entries.names, List.zipWith_map, List.zipWith_self, assignments, Assignment.ofFields,
    List.map_append, List.map_map]
  rfl

/-- No field gives a value to a column or to a part of one. -/
def GivesNothing (table : Table) (fields : Document) : Prop :=
  ∀ field ∈ fields,
    givesColumn table field = false ∧ ∀ column, givesPart table column field = false

theorem SetList.eq_nil_iff {plain columns expressions : List String}
    (list : SetList table fields plain columns expressions) (join : String → String → String) :
    plain ++ List.zipWith join columns expressions = [] ↔ GivesNothing table fields := by
  have noPlain : plain = [] ↔ fields.filter (givesColumn table) = [] := by
    rw [← List.length_eq_zero_iff, ← list.plain.length_eq, List.length_eq_zero_iff]
  have noParts : List.zipWith join columns expressions = [] ↔ columns = [] := by
    rw [← List.length_eq_zero_iff, List.length_zipWith, ← list.applied.length_eq, Nat.min_self,
      List.length_eq_zero_iff]
  rw [List.append_eq_nil_iff, noPlain, noParts, List.filter_eq_nil_iff,
    List.eq_nil_iff_forall_not_mem]
  simp only [list.complete, not_exists, not_and, Bool.not_eq_true]
  constructor
  · intro nothing field member
    obtain ⟨wholes, parts⟩ := nothing
    exact ⟨wholes field member, fun column => parts column field member⟩
  · intro nothing
    exact ⟨fun field member => (nothing field member).1,
      fun column field member => (nothing field member).2 column⟩

theorem assignments_eq_nil_iff {record : Document} :
    assignments model.schema record = [] ↔
      GivesNothing model.target (assignableFields model.target record) := by
  obtain ⟨plain, columns, expressions, list, texts⟩ := exists_setList model record
  rw [← List.map_eq_nil_iff, texts, list.eq_nil_iff]

/-- An update assigns what its record gives in snake case, the primary key left out: the columns
that are given as a whole in the order of the record, then each JSON column that is given in parts,
once, by an expression that makes all changes in the order of the record. There is no update just
if the record gives nothing. -/
theorem setList_of_update (model : Model) (record : Document) :
    (Statement.ofUpdateByKey? model.schema record = none ↔
      GivesNothing model.target (assignableFields model.target record)) ∧
    (∀ policy query, Statement.ofUpdate model.schema policy query record = .ok none ↔
      GivesNothing model.target (assignableFields model.target record)) ∧
    ∀ policy statement, Updated model.schema policy record statement →
      ∃ plain columns expressions clause,
        SetList model.target (assignableFields model.target record) plain columns expressions ∧
        Picks model.schema policy clause ∧
        statement.text model.schema = "UPDATE " ++ model.target.name ++ " SET " ++
          ", ".intercalate (plain ++
            List.zipWith (fun column expression => column ++ "=" ++ expression)
              columns expressions) ++ clause := by
  refine ⟨?_, fun policy query => ?_, fun policy statement updated => ?_⟩
  · rw [← assignments_eq_nil_iff]
    unfold Statement.ofUpdateByKey?
    split
    · rename_i empty
      simp [empty]
    · rename_i nonempty
      simpa using nonempty
  · rw [← assignments_eq_nil_iff]
    unfold Statement.ofUpdate
    split
    · rename_i empty
      simp [empty]
    · rename_i nonempty
      refine iff_of_false (fun compiled => ?_) nonempty
      obtain ⟨conditions, _, same⟩ := exists_of_map_eq_ok compiled
      cases same
  · obtain ⟨-, clause, picks, text⟩ := updated.text_eq
    obtain ⟨plain, columns, expressions, list, texts⟩ := exists_setList model record
    refine ⟨plain, columns, expressions, clause, list, picks, ?_⟩
    rw [text, Statement.assignmentList, texts]
    rfl

/-- A table with two JSON columns. -/
def staff : Model :=
  .single ⟨"staff", "id", [("name", .string), ("job", .json), ("home", .json)]⟩

/-- A record in which the parts of two columns stand in turns, with a whole column between them. -/
def transfer : Document :=
  [("job.title", .string "chief"), ("home.city", .string "Rome"), ("id", .int 7),
   ("name", .string "Jon"), ("job.level", .int 2)]

theorem setList_of_update_transfer :
    (Statement.ofUpdateByKey? staff.schema transfer).map (·.text staff.schema) =
      some ("UPDATE staff SET name='Jon', job=jsonb_set(jsonb_set(job::jsonb, " ++
        "'\x7btitle\x7d', '\"chief\"'::jsonb), '\x7blevel\x7d', '2'::jsonb), " ++
        "home=jsonb_set(home::jsonb, '\x7bcity\x7d', '\"Rome\"'::jsonb) " ++
        "WHERE id=\x7bidPlaceHolder\x7d") ∧
    ∃ statement plain columns expressions clause,
      Statement.ofUpdateByKey? staff.schema transfer = some statement ∧
      SetList staff.target (assignableFields staff.target transfer) plain columns expressions ∧
      Picks staff.schema .reject clause ∧
      statement.text staff.schema = "UPDATE staff SET " ++
        ", ".intercalate (plain ++
          List.zipWith (fun column expression => column ++ "=" ++ expression)
            columns expressions) ++ clause := by
  have text : (Statement.ofUpdateByKey? staff.schema transfer).map (·.text staff.schema) =
      some ("UPDATE staff SET name='Jon', job=jsonb_set(jsonb_set(job::jsonb, " ++
        "'\x7btitle\x7d', '\"chief\"'::jsonb), '\x7blevel\x7d', '2'::jsonb), " ++
        "home=jsonb_set(home::jsonb, '\x7bcity\x7d', '\"Rome\"'::jsonb) " ++
        "WHERE id=\x7bidPlaceHolder\x7d") := by decide +kernel
  refine ⟨text, ?_⟩
  cases compiled : Statement.ofUpdateByKey? staff.schema transfer with
  | none =>
    rw [compiled] at text
    cases text
  | some statement =>
    obtain ⟨plain, columns, expressions, clause, list, picks, written⟩ :=
      (setList_of_update staff transfer).2.2 .reject statement (.byKey compiled)
    exact ⟨statement, plain, columns, expressions, clause, rfl, list, picks, written⟩

end UniversalQuery.Sql
