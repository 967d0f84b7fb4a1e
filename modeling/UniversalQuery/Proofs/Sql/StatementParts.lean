import UniversalQuery.Sql.Statement

set_option autoImplicit false

/-! Statements in parts. A text does not tell a reference to a column from any other name in it, but
parts do. The text of a statement is that of its parts one after the other, and whether references
carry the names of tables makes no difference to any other part. -/

namespace UniversalQuery.Sql

/-! ## Parts -/

/-- The keywords, operators and punctuation of statements. -/
def words : List String :=
  ["SELECT * FROM ", "SELECT COUNT(*) FROM ", "INSERT INTO ", " (", ") VALUES (", "UPDATE ",
    " SET ", "DELETE FROM ", " WHERE ", " ORDER BY ", " AND ", " OR ", "(", ")", ", ", " ", "ASC",
    "DESC", "=", ">", ">=", "<", "<=", "->", "->>", "::jsonb", "::jsonb @> ", "jsonb_set(",
    "::jsonb)"]

private theorem ne_empty_of_mem_words {text : String} (known : text ∈ words) : text ≠ "" := by
  rintro rfl
  revert known
  decide

/-- A part of a statement, with where it comes from. -/
inductive Part where
  | word (text : String) (known : text ∈ words)
  | literal (type : FieldType) (value : Value)
  | json (value : Value)
  | quoted (text : String)
  | placeholder
  | table (name : String)
  /-- A column of the target that the statement writes. -/
  | written (column : String)
  /-- A column that the statement looks at, with the table it is of. -/
  | reference (owner? : Option String) (column : String)

namespace Part

def text (qualified : Bool) : Part → String
  | .word text _ => text
  | .literal type value => Sql.literal type value
  | .json value => jsonLiteral value
  | .quoted text => quote text
  | .placeholder => Sql.placeholder
  | .table name => name
  | .written column => column
  | .reference (some owner) column => if qualified then owner ++ "." ++ column else column
  | .reference none column => column

section

variable (qualified : Bool)

@[simp] theorem text_word (text : String) (known : text ∈ words) :
    (word text known).text qualified = text := rfl

@[simp] theorem text_literal (type : FieldType) (value : Value) :
    (literal type value).text qualified = Sql.literal type value := rfl

@[simp] theorem text_json (value : Value) : (json value).text qualified = jsonLiteral value := rfl

@[simp] theorem text_quoted (text : String) : (quoted text).text qualified = quote text := rfl

@[simp] theorem text_placeholder : placeholder.text qualified = Sql.placeholder := rfl

@[simp] theorem text_table (name : String) : (table name).text qualified = name := rfl

@[simp] theorem text_written (column : String) : (written column).text qualified = column := rfl

@[simp] theorem text_reference (owner column : String) :
    (reference (some owner) column).text qualified =
      if qualified then owner ++ "." ++ column else column := rfl

end

abbrev comma : Part :=
  .word ", " (by decide)

abbrev equals : Part :=
  .word "=" (by decide)

abbrev joining (operator : BooleanOperator) : Part :=
  .word (separator operator) (by cases operator <;> decide)

abbrev comparing (operator : ComparisonOperator) : Part :=
  .word (comparisonSymbol operator) (by cases operator <;> decide)

abbrev direction (direction : Direction) : Part :=
  .word direction.keyword (by cases direction <;> decide)

end Part

/-- The text of parts, where references carry the names of tables or not. -/
def fill (qualified : Bool) : List Part → String
  | [] => ""
  | part :: rest => part.text qualified ++ fill qualified rest

variable {qualified : Bool}

@[simp] theorem fill_nil : fill qualified [] = "" := rfl

@[simp] theorem fill_cons (part : Part) (rest : List Part) :
    fill qualified (part :: rest) = part.text qualified ++ fill qualified rest := rfl

@[simp] theorem fill_append (first second : List Part) :
    fill qualified (first ++ second) = fill qualified first ++ fill qualified second := by
  induction first with
  | nil => simp
  | cons part rest ih => simp [ih, String.append_assoc]

/-- Parts with a part between each two of them. -/
def series (between : Part) (items : List (List Part)) : List Part :=
  [between].intercalate items

theorem series_cons_of_ne_nil {between : Part} {item : List Part} {rest : List (List Part)}
    (nonempty : rest ≠ []) :
    series between (item :: rest) = item ++ between :: series between rest := by
  rw [series, List.intercalate_cons_of_ne_nil nonempty, series]
  simp

theorem fill_series (between : Part) (items : List (List Part)) :
    fill qualified (series between items) =
      (between.text qualified).intercalate (items.map (fill qualified)) := by
  induction items with
  | nil => rfl
  | cons item rest ih =>
    cases rest with
    | nil => simp [series]
    | cons next rest =>
      rw [series_cons_of_ne_nil (List.cons_ne_nil next rest), List.map_cons,
        String.intercalate_cons_of_ne_nil (by simp), ← ih]
      simp [String.append_assoc]

theorem fill_ne_empty_of_word {parts : List Part} {text : String} {known : text ∈ words}
    (member : .word text known ∈ parts) : fill qualified parts ≠ "" := by
  obtain ⟨before, after, rfl⟩ := List.append_of_mem member
  simp [ne_empty_of_mem_words known]

/-! ## Predicates in parts -/

/-- The parts of a predicate, with the loosest operator on its top level. Only without parts there
is no text. -/
structure PredicateParts where
  parts : List Part
  joinedBy : BooleanOperator
  visible : ∀ qualified, fill qualified parts = "" → parts = []

namespace PredicateParts

def nothing : PredicateParts :=
  ⟨[], .and, fun _ _ => rfl⟩

/-- A predicate in which some word stands. -/
def atom (parts : List Part) {text : String} (known : text ∈ words)
    (member : .word text known ∈ parts) : PredicateParts :=
  ⟨parts, .and, fun _ empty => absurd empty (fill_ne_empty_of_word member)⟩

def operand (operator : BooleanOperator) (predicate : PredicateParts) : List Part :=
  if operator = .and ∧ predicate.joinedBy = .or then
    [.word "(" (by decide)] ++ predicate.parts ++ [.word ")" (by decide)]
  else predicate.parts

private theorem joining_mem_series (operator : BooleanOperator) (first second : PredicateParts)
    (rest : List PredicateParts) :
    Part.joining operator ∈
      series (.joining operator) ((first :: second :: rest).map (operand operator)) := by
  rw [List.map_cons, series_cons_of_ne_nil (by simp)]
  exact List.mem_append_right _ List.mem_cons_self

/-- Joins the predicates that have parts. A single one stays as it is. -/
def join (operator : BooleanOperator) (predicates : List PredicateParts) : PredicateParts :=
  match predicates.filter (!·.parts.isEmpty) with
  | [] => nothing
  | [predicate] => predicate
  | first :: second :: rest =>
    ⟨series (.joining operator) ((first :: second :: rest).map (operand operator)), operator,
      fun _ empty => absurd empty (fill_ne_empty_of_word (joining_mem_series operator _ _ _))⟩

/-- The predicate that the parts are of. -/
def predicate (qualified : Bool) (parts : PredicateParts) : Predicate :=
  ⟨fill qualified parts.parts, parts.joinedBy⟩

private theorem operand_predicate (operator : BooleanOperator) (parts : PredicateParts) :
    (parts.predicate qualified).operand operator = fill qualified (parts.operand operator) := by
  unfold Predicate.operand operand predicate
  split <;> simp [String.append_assoc]

private theorem text_predicate_bne_empty (parts : PredicateParts) :
    ((parts.predicate qualified).text != "") = !parts.parts.isEmpty := by
  have visible := parts.visible qualified
  cases empty : parts.parts with
  | nil => simp [predicate, empty]
  | cons part rest =>
    rw [empty] at visible
    simpa [predicate, empty] using visible

theorem join_predicate (operator : BooleanOperator) (predicates : List PredicateParts) :
    Predicate.join operator (predicates.map (predicate qualified)) =
      (join operator predicates).predicate qualified := by
  have kept : (predicates.map (predicate qualified)).filter (·.text != "") =
      (predicates.filter (!·.parts.isEmpty)).map (predicate qualified) := by
    rw [List.filter_map]
    exact congrArg _ (List.filter_congr fun parts _ => text_predicate_bne_empty parts)
  unfold Predicate.join join
  rw [kept]
  generalize predicates.filter (!·.parts.isEmpty) = kept
  match kept with
  | [] => rfl
  | [parts] => rfl
  | first :: second :: rest =>
    have texts : ((first :: second :: rest).map (predicate qualified)).map
        (Predicate.operand operator) =
          ((first :: second :: rest).map (operand operator)).map (fill qualified) := by
      rw [List.map_map, List.map_map]
      exact List.map_congr_left fun parts _ => operand_predicate operator parts
    have text : fill qualified (series (.joining operator)
        ((first :: second :: rest).map (operand operator))) = _ := fill_series _ _
    rw [Part.text_word, ← texts] at text
    exact congrArg (Predicate.mk · operator) text.symm

end PredicateParts

/-! ## Clauses in parts -/

section

variable (owner? : String → Option String)

def pathParts : List String → List Part
  | [] => []
  | [segment] => [.word "->>" (by decide), .quoted segment]
  | segment :: rest => .word "->" (by decide) :: .quoted segment :: pathParts rest

def columnPart (field : String) : Part :=
  .reference (owner? field) field

def referenceParts (path : FieldPath) : List Part :=
  columnPart owner? path.root :: pathParts path.segments

mutual

/-- The parts of a condition, in which every column has the table that the schema says. -/
def conditionParts : Condition → PredicateParts
  | .equality field type value =>
    .atom [columnPart owner? field, .equals, .literal type value]
      (show "=" ∈ words by decide) (by simp [Part.equals])
  | .range field type bounds =>
    .join .and (bounds.map fun bound =>
      .atom [columnPart owner? field, .word " " (by decide), .comparing bound.1,
          .word " " (by decide), .literal type bound.2]
        (show " " ∈ words by decide) (by simp))
  | .boolean operator groups => .join operator (groupsParts groups)
  | .jsonPath path value =>
    .atom (referenceParts owner? path ++ [.equals, .quoted (textOf value)])
      (show "=" ∈ words by decide) (by simp [Part.equals])
  | .containment field value =>
    .atom [columnPart owner? field, .word "::jsonb @> " (by decide), .json value,
        .word "::jsonb" (by decide)]
      (show "::jsonb" ∈ words by decide) (by simp)

def groupParts : List Condition → List PredicateParts
  | [] => []
  | condition :: rest => conditionParts condition :: groupParts rest

def groupsParts : List (List Condition) → List PredicateParts
  | [] => []
  | group :: rest => groupParts group ++ groupsParts rest

end

theorem groupParts_append (first second : List Condition) :
    groupParts owner? (first ++ second) = groupParts owner? first ++ groupParts owner? second := by
  induction first with
  | nil => rfl
  | cons condition rest ih => simp [groupParts, ih]

def whereParts (conditions : List Condition) : List Part :=
  match (PredicateParts.join .and (groupParts owner? conditions)).parts with
  | [] => []
  | parts => .word " WHERE " (by decide) :: parts

def orderItemParts (entry : OrderEntry) : List Part :=
  referenceParts owner? (FieldPath.ofKey entry.field) ++
    [.word " " (by decide), .direction entry.direction]

def orderParts (entries : List OrderEntry) : List Part :=
  if entries = [] then []
  else .word " ORDER BY " (by decide) :: series .comma (entries.map (orderItemParts owner?))

end

def attributeParts (expression : List Part) (update : AttributeUpdate) : List Part :=
  [.word "jsonb_set(" (by decide)] ++ expression ++
    [.comma, .quoted ("\x7b" ++ ",".intercalate update.segments ++ "\x7d"), .comma,
      .json update.value, .word "::jsonb)" (by decide)]

def assignmentParts : Assignment → List Part
  | .plain column type value => [.written column, .equals, .literal type value]
  | .attributes column updates =>
    [.written column, .equals] ++
      updates.foldl attributeParts [.written column, .word "::jsonb" (by decide)]

def assignmentsParts (assignments : List Assignment) : List Part :=
  series .comma (assignments.map assignmentParts)

def keyParts (schema : Schema) : List Part :=
  [.word " WHERE " (by decide), .reference (some schema.table) schema.primaryKey, .equals,
    .placeholder]

/-- The parts of a statement. They do not depend on how the schema writes references. -/
def Statement.parts (schema : Schema) : Statement → List Part
  | .select conditions order =>
    [.word "SELECT * FROM " (by decide), .table schema.table] ++
      whereParts schema.owner? conditions ++ orderParts schema.owner? order
  | .count conditions =>
    [.word "SELECT COUNT(*) FROM " (by decide), .table schema.table] ++
      whereParts schema.owner? conditions
  | .insert fields =>
    [.word "INSERT INTO " (by decide), .table schema.table, .word " (" (by decide)] ++
      series .comma (fields.map fun field => [.written field.column]) ++
      [.word ") VALUES (" (by decide)] ++
      series .comma (fields.map fun field => [.literal field.type field.value]) ++
      [.word ")" (by decide)]
  | .update assignments conditions =>
    [.word "UPDATE " (by decide), .table schema.table, .word " SET " (by decide)] ++
      assignmentsParts assignments ++ whereParts schema.owner? conditions
  | .updateByKey assignments =>
    [.word "UPDATE " (by decide), .table schema.table, .word " SET " (by decide)] ++
      assignmentsParts assignments ++ keyParts schema
  | .remove conditions =>
    [.word "DELETE FROM " (by decide), .table schema.table] ++ whereParts schema.owner? conditions
  | .removeByKey =>
    [.word "DELETE FROM " (by decide), .table schema.table] ++ keyParts schema

/-! ## Texts of parts -/

variable {schema : Schema}

@[simp] theorem text_columnPart (schema : Schema) (field : String) :
    (columnPart schema.owner? field).text schema.qualifies = columnReference schema field := by
  unfold columnPart columnReference
  cases schema.owner? field <;> rfl

private theorem fill_pathParts (segments : List String) :
    fill qualified (pathParts segments) = pathSteps segments := by
  fun_induction pathParts segments with
  | case1 => rfl
  | case2 segment => simp [pathSteps]
  | case3 segment rest nonempty ih =>
    rw [pathSteps.eq_3 _ _ nonempty, fill_cons, fill_cons, ih]
    simp [String.append_assoc]

theorem fill_referenceParts (path : FieldPath) :
    fill schema.qualifies (referenceParts schema.owner? path) = reference schema path := by
  rw [referenceParts, fill_cons, text_columnPart, fill_pathParts, reference]

mutual

theorem render_eq_predicate : (condition : Condition) →
    render schema condition =
      (conditionParts schema.owner? condition).predicate schema.qualifies
  | .equality field type value => by
    simp [render, conditionParts, equalityText, Predicate.atom, PredicateParts.atom,
      PredicateParts.predicate, text_columnPart, String.append_assoc]
  | .range field type bounds => by
    rw [render, conditionParts, ← PredicateParts.join_predicate, List.map_map]
    refine congrArg _ (List.map_congr_left fun bound _ => ?_)
    simp [boundText, Predicate.atom, PredicateParts.atom, PredicateParts.predicate,
      text_columnPart, String.append_assoc]
  | .boolean operator groups => by
    rw [render, conditionParts, renderGroups_eq_map groups, PredicateParts.join_predicate]
  | .jsonPath path value => by
    simp [render, conditionParts, jsonPathText, Predicate.atom, PredicateParts.atom,
      PredicateParts.predicate, fill_referenceParts, String.append_assoc]
  | .containment field value => by
    simp [render, conditionParts, containmentText, Predicate.atom, PredicateParts.atom,
      PredicateParts.predicate, text_columnPart, String.append_assoc]

theorem renderGroup_eq_map : (conditions : List Condition) →
    renderGroup schema conditions =
      (groupParts schema.owner? conditions).map (·.predicate schema.qualifies)
  | [] => rfl
  | condition :: rest => by
    rw [renderGroup, groupParts, List.map_cons, render_eq_predicate condition,
      renderGroup_eq_map rest]

theorem renderGroups_eq_map : (groups : List (List Condition)) →
    renderGroups schema groups =
      (groupsParts schema.owner? groups).map (·.predicate schema.qualifies)
  | [] => rfl
  | group :: rest => by
    rw [renderGroups, groupsParts, List.map_append, renderGroup_eq_map group,
      renderGroups_eq_map rest]

end

private theorem fill_whereParts (conditions : List Condition) :
    fill schema.qualifies (whereParts schema.owner? conditions) =
      whereClause schema conditions := by
  have whole : predicate schema conditions =
      (PredicateParts.join .and (groupParts schema.owner? conditions)).predicate
        schema.qualifies := by
    rw [predicate, renderGroup_eq_map]
    exact PredicateParts.join_predicate .and _
  unfold whereClause whereParts
  dsimp only
  rw [whole, PredicateParts.predicate]
  generalize PredicateParts.join .and (groupParts schema.owner? conditions) = joined
  obtain ⟨parts, joinedBy, visible⟩ := joined
  cases parts with
  | nil => rfl
  | cons part rest =>
    have nonempty : fill schema.qualifies (part :: rest) ≠ "" :=
      fun empty => List.cons_ne_nil part rest (visible _ empty)
    rw [if_neg nonempty, fill_cons, Part.text_word]

private theorem fill_orderItemParts (entry : OrderEntry) :
    fill schema.qualifies (orderItemParts schema.owner? entry) = orderItem schema entry := by
  simp [orderItemParts, orderItem, fill_referenceParts, String.append_assoc]

private theorem fill_orderParts (entries : List OrderEntry) :
    fill schema.qualifies (orderParts schema.owner? entries) = orderClause schema entries := by
  unfold orderParts orderClause
  split
  · rfl
  · have items : fill schema.qualifies ∘ orderItemParts schema.owner? = orderItem schema :=
      funext fill_orderItemParts
    rw [fill_cons, fill_series, List.map_map, items, Part.text_word, Part.text_word]

private theorem fill_attributeParts (expression : List Part) (update : AttributeUpdate) :
    fill qualified (attributeParts expression update) =
      Assignment.attributeText (fill qualified expression) update := by
  simp [attributeParts, Assignment.attributeText, Assignment.pathLiteral, String.append_assoc]

private theorem fill_foldl_attributeParts (updates : List AttributeUpdate)
    (expression : List Part) :
    fill qualified (updates.foldl attributeParts expression) =
      updates.foldl Assignment.attributeText (fill qualified expression) := by
  induction updates generalizing expression with
  | nil => rfl
  | cons update rest ih => rw [List.foldl_cons, List.foldl_cons, ih, fill_attributeParts]

private theorem fill_assignmentParts (assignment : Assignment) :
    fill qualified (assignmentParts assignment) = assignment.text := by
  cases assignment with
  | plain column type value =>
    simp [assignmentParts, Assignment.text, String.append_assoc]
  | attributes column updates =>
    rw [assignmentParts, fill_append, fill_foldl_attributeParts]
    simp [Assignment.text, String.append_assoc]

private theorem fill_assignmentsParts (assignments : List Assignment) :
    fill qualified (assignmentsParts assignments) = Statement.assignmentList assignments := by
  have items : fill qualified ∘ assignmentParts = Assignment.text := funext fill_assignmentParts
  rw [assignmentsParts, fill_series, List.map_map, items, Statement.assignmentList, Part.text_word]

private theorem fill_keyParts (schema : Schema) :
    fill schema.qualifies (keyParts schema) = Statement.keyClause schema := by
  simp [keyParts, Statement.keyClause, String.append_assoc]

/-- The text of a statement is that of its parts. -/
theorem Statement.text_eq_fill (statement : Statement) :
    statement.text schema = fill schema.qualifies (statement.parts schema) := by
  cases statement with
  | select conditions order =>
    change "SELECT * FROM " ++ schema.table ++ whereClause schema conditions ++
      orderClause schema order = _
    simp [parts, fill_whereParts, fill_orderParts, String.append_assoc]
  | count conditions =>
    change "SELECT COUNT(*) FROM " ++ schema.table ++ whereClause schema conditions = _
    simp [parts, fill_whereParts, String.append_assoc]
  | insert fields =>
    change "INSERT INTO " ++ schema.table ++ " (" ++ ", ".intercalate (fields.map (·.column)) ++
      ") VALUES (" ++ ", ".intercalate (fields.map fun field => literal field.type field.value) ++
      ")" = _
    simp [parts, fill_series, Function.comp_def, String.append_assoc]
  | update assignments conditions =>
    change "UPDATE " ++ schema.table ++ " SET " ++ assignmentList assignments ++
      whereClause schema conditions = _
    simp [parts, fill_assignmentsParts, fill_whereParts, String.append_assoc]
  | updateByKey assignments =>
    change "UPDATE " ++ schema.table ++ " SET " ++ assignmentList assignments ++
      keyClause schema = _
    simp [parts, fill_assignmentsParts, fill_keyParts, String.append_assoc]
  | remove conditions =>
    change "DELETE FROM " ++ schema.table ++ whereClause schema conditions = _
    simp [parts, fill_whereParts, String.append_assoc]
  | removeByKey =>
    change "DELETE FROM " ++ schema.table ++ keyClause schema = _
    simp [parts, fill_keyParts, String.append_assoc]

end UniversalQuery.Sql
