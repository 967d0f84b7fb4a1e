import UniversalQuery.Proofs.Sql.PathOperands
import UniversalQuery.Proofs.Sql.UnknownFields

set_option autoImplicit false

/-! Which columns the path operators of a query are applied to. They are those of its dotted keys,
in its condition at any depth and in its order, whatever type a column has. -/

namespace UniversalQuery

open Formula

/-! ## Keys of a query -/

/-- A field that a condition names, on its top level or in a member of a boolean operand. -/
inductive Document.Mentions : Document → String → Prop where
  | field {document : Document} {key : String} {value : Value} :
      (key, value) ∈ document → BooleanOperator.ofKey? key = none → Mentions document key
  | member {document fields : Document} {name key : String} {operator : BooleanOperator}
      {items : List Value} :
      (name, .array items) ∈ document → BooleanOperator.ofKey? name = some operator →
      .object fields ∈ items → Mentions fields key → Mentions document key

/-- The key refers into a column that the schema declares. -/
def Schema.KnowsPath (schema : Schema) (key : String) : Prop :=
  (FieldPath.ofKey key).isPlain = false ∧ (schema.fieldType? (rootField key)).isSome = true

def Query.Mentions (query : Query) (key : String) : Prop :=
  (query.condition.getD []).Mentions key ∨ ∃ entry ∈ query.order.getD [], entry.field = key

namespace Document.Mentions

variable {key : String}

theorem mono {document other : Document} (mentions : Mentions document key)
    (subset : document ⊆ other) : Mentions other key := by
  cases mentions with
  | field member isField => exact .field (subset member) isField
  | member entry named inside mentions => exact .member (subset entry) named inside mentions

theorem not_nil : ¬ Mentions [] key := by
  intro mentions
  cases mentions with
  | field member => cases member
  | member entry => cases entry

theorem cons_iff {entry : String × Value} {rest : Document} :
    Mentions (entry :: rest) key ↔ Mentions [entry] key ∨ Mentions rest key := by
  constructor
  · intro mentions
    cases mentions with
    | field member isField =>
      obtain rfl | later := List.mem_cons.mp member
      · exact .inl (.field List.mem_cons_self isField)
      · exact .inr (.field later isField)
    | member member named inside mentions =>
      obtain rfl | later := List.mem_cons.mp member
      · exact .inl (.member List.mem_cons_self named inside mentions)
      · exact .inr (.member later named inside mentions)
  · intro mentions
    obtain head | tail := mentions
    · exact head.mono (by simp)
    · exact tail.mono (List.subset_cons_self _ _)

theorem field_iff {name : String} {value : Value} (isField : BooleanOperator.ofKey? name = none) :
    Mentions [(name, value)] key ↔ key = name := by
  constructor
  · intro mentions
    cases mentions with
    | field member =>
      cases List.mem_singleton.mp member
      rfl
    | member member named =>
      cases List.mem_singleton.mp member
      rw [isField] at named
      cases named
  · intro same
    subst same
    exact .field List.mem_cons_self isField

theorem operator_iff {name : String} {value : Value} {operator : BooleanOperator}
    (named : BooleanOperator.ofKey? name = some operator) :
    Mentions [(name, value)] key ↔
      ∃ items fields, value = .array items ∧ .object fields ∈ items ∧ Mentions fields key := by
  constructor
  · intro mentions
    cases mentions with
    | field member isField =>
      cases List.mem_singleton.mp member
      rw [named] at isField
      cases isField
    | member member _ inside mentions =>
      cases List.mem_singleton.mp member
      exact ⟨_, _, rfl, inside, mentions⟩
  · intro mention
    obtain ⟨items, fields, same, inside, mentions⟩ := mention
    subst same
    exact .member List.mem_cons_self named inside mentions

end Document.Mentions

namespace Sql

/-- The keys of some formulas that are written as paths, in order. -/
def formulaKeys (formulas : List (Formula (Comparison Value))) : List String :=
  (formulas.flatMap leaves).flatMap pathKeys

theorem formulaKeys_append (first second : List (Formula (Comparison Value))) :
    formulaKeys (first ++ second) = formulaKeys first ++ formulaKeys second := by
  simp [formulaKeys]

theorem formulaKeys_joined? (operator : BooleanOperator)
    (formulas : List (Formula (Comparison Value))) :
    formulaKeys (joined? operator formulas).toList = formulaKeys formulas := by
  cases formulas <;> simp [formulaKeys, joined?]

section Keys

variable {schema : Schema} {key : String}

private theorem formulaKeys_bounds (name : String) (fields : Document) :
    formulaKeys (boundFormulas name fields) = [] := by
  rw [formulaKeys, boundFormulas, List.flatMap_eq_nil_iff]
  intro comparison member
  obtain ⟨formula, inside, leaf⟩ := List.mem_flatMap.mp member
  obtain ⟨field, _, bound⟩ := List.mem_filterMap.mp inside
  obtain ⟨operator, _, same⟩ := Option.map_eq_some_iff.mp bound
  subst same
  rw [leaves_leaf, List.mem_singleton] at leaf
  subst leaf
  rfl

private theorem mem_formulaKeys_leaf {name : String} {value : Value} :
    key ∈ formulaKeys [.leaf ⟨name, .equal, value⟩] ↔
      key = name ∧ (FieldPath.ofKey key).isPlain = false := by
  simp only [formulaKeys, List.flatMap_singleton, leaves_leaf, pathKeys, dottedKeys,
    List.mem_filter, List.mem_singleton, Bool.not_eq_true']

private theorem mem_formulaKeys_field (name : String) (value : Value) :
    key ∈ formulaKeys (fieldFormula? schema name value).toList ↔
      key = name ∧ schema.KnowsPath key := by
  unfold Schema.KnowsPath
  cases typed : schema.fieldType? (rootField name) with
  | none =>
    rw [fieldFormula?_unknown typed]
    refine iff_of_false List.not_mem_nil ?_
    intro entry
    obtain ⟨same, _, known⟩ := entry
    simp [same, typed] at known
  | some type =>
    have known : key = name → (schema.fieldType? (rootField key)).isSome = true := by
      intro same
      rw [same, typed]
      rfl
    by_cases whole : (FieldPath.ofKey name).isPlain = true → type ≠ .json →
        value.asDocument? = none
    · rw [fieldFormula?_leaf value typed whole, Option.toList_some, mem_formulaKeys_leaf]
      exact and_congr_right fun same => (and_iff_left (known same)).symm
    · -- An object on a plain column is a range, and bounds are no paths.
      push Not at whole
      obtain ⟨plain, scalar, object⟩ := whole
      cases value with
      | object fields =>
        rw [fieldFormula?_object typed plain scalar, formulaKeys_joined?, formulaKeys_bounds]
        refine iff_of_false List.not_mem_nil ?_
        intro entry
        obtain ⟨same, dotted, _⟩ := entry
        rw [same, plain] at dotted
        cases dotted
      | _ => exact absurd rfl object

mutual

theorem mem_formulaKeys_entry (name : String) (value : Value) :
    key ∈ formulaKeys (entryFormula? schema name value).toList ↔
      Document.Mentions [(name, value)] key ∧ schema.KnowsPath key := by
  cases named : BooleanOperator.ofKey? name with
  | none => rw [entryFormula?_field named, mem_formulaKeys_field, Document.Mentions.field_iff named]
  | some operator =>
    rw [Document.Mentions.operator_iff named]
    cases value with
    | array items =>
      rw [entryFormula?_operator named, formulaKeys_joined?, mem_formulaKeys_members items]
      simp
    | _ => simp [entryFormula?, connective?_eq, named, formulaKeys]

theorem mem_formulaKeys_members : (items : List Value) →
    (key ∈ formulaKeys (memberFormulas schema items) ↔
      (∃ fields, .object fields ∈ items ∧ Document.Mentions fields key) ∧ schema.KnowsPath key)
  | [] => by simp [memberFormulas, formulaKeys]
  | item :: rest => by
    have later := mem_formulaKeys_members rest
    cases item with
    | object fields =>
      have first := mem_formulaKeys_document fields
      rw [memberFormulas, formulaKeys_append, List.mem_append, first, later, ← or_and_right]
      simp
    | _ => simpa [memberFormulas] using later

theorem mem_formulaKeys_document : (document : List (String × Value)) →
    (key ∈ formulaKeys (documentFormulas schema document) ↔
      Document.Mentions document key ∧ schema.KnowsPath key)
  | [] => by
    simp [documentFormulas, formulaKeys, Document.Mentions.not_nil]
  | (name, value) :: rest => by
    have first := mem_formulaKeys_entry name value
    have later := mem_formulaKeys_document rest
    rw [documentFormulas, formulaKeys_append, List.mem_append, first, later, ← or_and_right]
    exact and_congr_left fun _ => Document.Mentions.cons_iff.symm

end

/-- Under either policy the entries of an order are those on known fields. -/
theorem eq_pruneOrder {policy : UnknownFields} {entries known : List OrderEntry}
    (sorted : knownOrder schema policy entries = .ok known) :
    known = pruneOrder schema entries := by
  cases policy with
  | drop =>
    rw [knownOrder_drop] at sorted
    cases sorted
    rfl
  | reject =>
    have same := pruneOrder_of_knownOrder sorted
    rw [← same, ← knownOrder_drop_eq, knownOrder_drop] at sorted
    cases sorted
    rw [same]

theorem mem_dottedKeys_order {policy : UnknownFields} {entries known : List OrderEntry}
    (sorted : knownOrder schema policy entries = .ok known) :
    key ∈ dottedKeys (known.map (·.field)) ↔
      (∃ entry ∈ entries, entry.field = key) ∧ schema.KnowsPath key := by
  rw [eq_pruneOrder sorted, dottedKeys, List.mem_filter, Bool.not_eq_true']
  constructor
  · intro entry
    obtain ⟨member, dotted⟩ := entry
    obtain ⟨entry, kept, same⟩ := List.mem_map.mp member
    subst same
    obtain ⟨given, known⟩ := List.mem_filter.mp kept
    exact ⟨⟨entry, given, rfl⟩, dotted, known⟩
  · intro mention
    obtain ⟨⟨entry, given, same⟩, dotted, known⟩ := mention
    subst same
    exact ⟨List.mem_map_of_mem (List.mem_filter.mpr ⟨given, known⟩), dotted⟩

end Keys

/-! ## Texts -/

namespace HasOperands

variable {schema : Schema} {lefts rights : List String} {left right : String}

theorem nothing {text : String} (unquoted : '\'' ∉ text.toList) (arrowless : '>' ∉ text.toList) :
    HasOperands schema [] text :=
  .plain unquoted (operandsFrom_eq_nil (plain_not_mem_symbols.mpr arrowless) _)

/-- What stands on the two sides of a blank is read apart. -/
theorem blank (before : HasOperands schema lefts left) (after : HasOperands schema rights right) :
    HasOperands schema (lefts ++ rights) (left ++ " " ++ right) := by
  have cut : cutAt? (.plain ' ') = some (some []) := rfl
  refine before.between after (by decide) (by decide) ?_
  intro masked other first second
  rw [pathOperands] at first second ⊢
  change operandsFrom (some []) (masked ++ [.plain ' '] ++ other) = _
  rw [List.append_assoc, List.singleton_append, operandsFrom_append_cons cut, first, second,
    List.map_append]

end HasOperands

section Texts

variable {schema : Schema} {policy : UnknownFields}

theorem HasOperands.clause {keys others : List String} {before after : String}
    (first : HasOperands schema keys before) (word : String)
    (later : HasOperands schema others after)
    (unquoted : '\'' ∉ word.toList) (arrowless : '>' ∉ word.toList) :
    HasOperands schema (keys ++ others) (before ++ (" " ++ word ++ " " ++ after)) := by
  have keyword : HasOperands schema [] word := .nothing unquoted arrowless
  have whole := first.blank (keyword.blank later)
  simpa [String.append_assoc] using whole

theorem Phrase.pathOperands_eq {operator : BooleanOperator}
    {tokens : List (Token (Comparison Value))} {formula : Formula (Comparison Value)}
    (phrase : Phrase operator tokens formula)
    (leaves : ∀ comparison, .leaf comparison ∈ tokens →
      pathOperands (mask (comparisonPieces schema comparison)) =
        (pathKeys comparison).map (rootReference schema)) :
    pathOperands (mask (tokens.flatMap (Token.pieces (comparisonPieces schema)))) =
      (formulaKeys [formula]).map (rootReference schema) := by
  induction phrase with
  | @leaf comparison =>
    have operands := leaves comparison List.mem_cons_self
    simpa [Token.pieces, formulaKeys] using operands
  | @parenthesized _ tokens _ _ ih =>
    have inner := ih fun comparison member => leaves comparison (by simp [member])
    have opening : cutAt? (.plain '(') = some (some []) := rfl
    have closing : cutAt? (.plain ')') = some (some []) := rfl
    have whole : mask ((Token.opening :: (tokens ++ [.closing])).flatMap
        (Token.pieces (comparisonPieces schema))) = [] ++ .plain '(' ::
          (mask (tokens.flatMap (Token.pieces (comparisonPieces schema))) ++
            .plain ')' :: []) := by
      simp [Token.pieces, symbols]
    rw [pathOperands] at inner ⊢
    rw [whole, operandsFrom_append_cons opening, operandsFrom_append_cons closing, inner]
    simp [operandsFrom]
  | loosened _ ih => exact ih leaves
  | @joined operator lefts rights first second _ _ leftIH rightIH =>
    have before := leftIH fun comparison member => leaves comparison (by simp [member])
    have after := rightIH fun comparison member => leaves comparison (by simp [member])
    have blank : cutAt? (.plain ' ') = some (some []) := rfl
    obtain ⟨word, same, silent⟩ : ∃ word, symbols (keyword operator) =
        .plain ' ' :: (word ++ [.plain ' ']) ∧ operandsFrom (some []) word = [] := by
      cases operator with
      | and => exact ⟨symbols "AND", rfl, by decide⟩
      | or => exact ⟨symbols "OR", rfl, by decide⟩
    have whole : mask ((lefts ++ .connective operator :: rights).flatMap
        (Token.pieces (comparisonPieces schema))) =
          mask (lefts.flatMap (Token.pieces (comparisonPieces schema))) ++ .plain ' ' ::
            (word ++ .plain ' ' ::
              mask (rights.flatMap (Token.pieces (comparisonPieces schema)))) := by
      simp [Token.pieces, same]
    rw [pathOperands] at before after ⊢
    rw [whole, operandsFrom_append_cons blank, operandsFrom_append_cons blank, before, silent,
      after]
    simp [formulaKeys]

variable (plain : schema.PlainNames) (arrowless : schema.Avoids '>')
include plain arrowless

theorem Renders.hasOperands {predicate : Predicate} {formula : Formula (Comparison Value)}
    (renders : Renders schema predicate formula) :
    HasOperands schema (formulaKeys [formula]) predicate.text := by
  obtain ⟨tokens, shape, phrase, agrees, resolved, written⟩ := renders
  have same : formulaKeys [formula] = formulaKeys [shape] := by simp [formulaKeys, agrees.leaves]
  rw [same]
  refine ⟨_, written, phrase.pathOperands_eq ?_⟩
  intro comparison member
  obtain ⟨pieces, spelled, operands⟩ :=
    hasOperands_comparisonText plain arrowless (resolved comparison member)
  rw [comparisonPieces, spelled.scan_eq]
  exact operands

/-- The keys of a condition that are written as paths, in order. -/
theorem HasOperands.whereClause {keys : List String} {text : String}
    (before : HasOperands schema keys text) {document : Document} {conditions : List Condition}
    (classified : classify schema policy document = .ok conditions) :
    HasOperands schema (keys ++ formulaKeys (documentFormulas schema document))
      (text ++ whereClause schema conditions) := by
  have yields := (yields_document plain.quote document classified).join plain.quote .and
  have joined := formulaKeys_joined? .and (documentFormulas schema document)
  rw [← joined]
  unfold Sql.whereClause
  dsimp only
  split
  · rename_i empty
    have none := yields.eq_none empty
    simpa [none, formulaKeys] using before
  · rename_i nonempty
    obtain ⟨formula, asked, renders⟩ := yields.renders nonempty
    rw [asked]
    exact before.clause "WHERE" (renders.hasOperands plain arrowless) (by decide) (by decide)

private theorem hasOperands_keyReference {key : String} (known : schema.HasColumn (rootField key)) :
    HasOperands schema (dottedKeys [key]) (reference schema (FieldPath.ofKey key)) := by
  cases dotted : (FieldPath.ofKey key).isPlain with
  | false =>
    have empty : Masks "" (· = []) := .plain (by decide) rfl
    have whole := hasOperands_reference plain arrowless known dotted empty
      (fun _ same => by simp [same]) (fun _ same => by rw [same]; rfl)
    simpa [dottedKeys, dotted] using whole
  | true =>
    have column : HasOperands schema [] (columnReference schema (rootField key)) :=
      .nothing (not_mem_columnReference plain.quote (by decide) known)
        (not_mem_columnReference arrowless (by decide) known)
    have whole : reference schema (FieldPath.ofKey key) =
        columnReference schema (rootField key) := by
      rw [FieldPath.isPlain, List.isEmpty_iff] at dotted
      rw [reference, dotted, pathSteps, String.append_empty, rootField]
    simpa [dottedKeys, dotted, whole] using column

/-- A comma belongs to the direction before it. -/
theorem hasOperands_orderItems {order : List OrderEntry} (nonempty : order ≠ [])
    (known : ∀ entry ∈ order, schema.HasColumn (rootField entry.field)) :
    HasOperands schema (dottedKeys (order.map (·.field)))
      (", ".intercalate (order.map (orderItem schema))) := by
  induction order with
  | nil => exact absurd rfl nonempty
  | cons entry rest ih =>
    have column := hasOperands_keyReference plain arrowless (known entry List.mem_cons_self)
    have direction (tail : String) (member : tail ∈ ["", ","]) :
        HasOperands schema [] (entry.direction.keyword ++ tail) := by
      simp only [List.mem_cons, List.not_mem_nil, or_false] at member
      obtain rfl | rfl := member <;> cases entry.direction <;>
        exact .nothing (by decide) (by decide)
    cases rest with
    | nil =>
      have whole := column.blank (direction "" (by decide))
      simpa [orderItem] using whole
    | cons next rest =>
      have tail := ih (List.cons_ne_nil _ _) fun other member =>
        known other (List.mem_cons_of_mem _ member)
      have whole := (column.blank (direction "," (by decide))).blank tail
      have keys : dottedKeys ((entry :: next :: rest).map (·.field)) =
          dottedKeys [entry.field] ++ [] ++ dottedKeys ((next :: rest).map (·.field)) := by
        simp [dottedKeys, ← List.filter_append]
      rw [keys, List.map_cons (f := orderItem schema), String.intercalate_cons_of_ne_nil (by simp)]
      simpa [orderItem, String.append_assoc] using whole

theorem HasOperands.orderClause {keys : List String} {text : String}
    (before : HasOperands schema keys text) {order : List OrderEntry}
    (known : ∀ entry ∈ order, schema.HasColumn (rootField entry.field)) :
    HasOperands schema (keys ++ dottedKeys (order.map (·.field)))
      (text ++ orderClause schema order) := by
  unfold Sql.orderClause
  split
  · rename_i empty
    simpa [empty, dottedKeys] using before
  · rename_i nonempty
    have items := hasOperands_orderItems plain arrowless nonempty known
    exact before.clause "ORDER BY" items (by decide) (by decide)

end Texts

/-! ## Columns of path operators -/

/-- The text is the reference to a column that holds JSON. -/
def RefersToJson (schema : Schema) (text : String) : Prop :=
  ∃ column, '.' ∉ column.toList ∧ schema.fieldType? column = some .json ∧
    text = columnReference schema column

theorem columnReference_inj {model : Model} {first second : String}
    (knownFirst : (model.schema.fieldType? first).isSome = true)
    (knownSecond : (model.schema.fieldType? second).isSome = true)
    (solidFirst : '.' ∉ first.toList) (solidSecond : '.' ∉ second.toList)
    (same : columnReference model.schema first = columnReference model.schema second) :
    first = second := by
  have owned {column : String} (known : (model.schema.fieldType? column).isSome = true) :
      ∃ table, model.schema.owner? column = some table := by
    obtain ⟨type, typed⟩ := Option.isSome_iff_exists.mp known
    obtain ⟨table, owner, _⟩ := Option.bind_eq_some_iff.mp typed
    exact ⟨table.name, by simp [Model.schema, owner]⟩
  obtain ⟨table, owner⟩ := owned knownFirst
  obtain ⟨other, another⟩ := owned knownSecond
  unfold columnReference at same
  simp only [owner, another] at same
  split at same
  · -- The column is what stands behind the last dot.
    have behind {column : String} (solid : '.' ∉ column.toList) (table : String) :
        ((table ++ "." ++ column).toList.reverse.takeWhile (· != '.')) = column.toList.reverse := by
      have all : ∀ c ∈ column.toList.reverse, (c != '.') = true := by
        intro c inside
        exact bne_iff_ne.mpr fun dot => solid (by simpa [dot] using inside)
      simp [List.takeWhile_append_of_pos all]
    have columns := behind solidFirst table
    rw [same, behind solidSecond other] at columns
    exact (String.toList_injective (List.reverse_injective columns)).symm
  · exact same

/-- The path operators of a query are applied to the columns of its dotted keys, so they are applied
to JSON columns only if all of these hold JSON. -/
theorem path_operators_json_iff {model : Model}
    (plain : ∀ name ∈ model.names, ' ' ∉ name.toList ∧ '\'' ∉ name.toList ∧
      '(' ∉ name.toList ∧ ')' ∉ name.toList)
    (noArrow : ∀ name ∈ model.names, '>' ∉ name.toList)
    {policy : UnknownFields} {query : Query} {statement : Statement}
    (selected : Statement.ofSelect model.schema policy query = .ok statement) :
    ∃ masked, ∃ keys : List String, maskText? (statement.text model.schema) = some masked ∧
      pathOperands masked = keys.map (rootReference model.schema) ∧
      (∀ key, key ∈ keys ↔ query.snakeCased.Mentions key ∧ model.schema.KnowsPath key) ∧
      ((∀ operand ∈ pathOperands masked, RefersToJson model.schema operand) ↔
        ∀ key, query.snakeCased.Mentions key → model.schema.KnowsPath key →
          model.schema.fieldType? (rootField key) = some .json) := by
  have names := Model.schema_plainNames plain
  have arrowless := Model.schema_avoids noArrow
  obtain ⟨conditions, classified, tail⟩ := exists_of_bind_eq_ok selected
  obtain ⟨order, sorted, same⟩ := exists_of_bind_eq_ok tail
  cases same
  replace classified : classify model.schema policy (query.snakeCased.condition.getD []) =
      .ok conditions := by
    unfold queryConditions at classified
    cases asked : query.snakeCased.condition with
    | none => simpa [asked, classifyOptional, classify] using classified
    | some document => simpa [asked, classifyOptional] using classified
  have unquoted := names.quote.table (.inl rfl)
  have silent := arrowless.table (.inl rfl)
  have head : HasOperands model.schema [] ("SELECT * FROM " ++ model.schema.table) :=
    .nothing (by simp [unquoted]) (by simp [silent])
  have whole := (head.whereClause names arrowless classified).orderClause names arrowless
    (resolved_of_knownOrder sorted)
  obtain ⟨masked, read, operands⟩ := whole.exists_maskText
  have asked (key : String) : key ∈ [] ++ formulaKeys (documentFormulas model.schema
      (query.snakeCased.condition.getD [])) ++ dottedKeys (order.map (·.field)) ↔
        query.snakeCased.Mentions key ∧ model.schema.KnowsPath key := by
    rw [List.nil_append, List.mem_append, mem_formulaKeys_document, mem_dottedKeys_order sorted,
      ← or_and_right]
    rfl
  refine ⟨masked, _, read, operands, asked, ?_⟩
  rw [operands, List.forall_mem_map]
  constructor
  · intro json key mentions knows
    obtain ⟨column, solid, typed, same⟩ := json key ((asked key).mpr ⟨mentions, knows⟩)
    have root := columnReference_inj knows.2 (by rw [typed]; rfl) (dot_not_mem_rootField key) solid
      same
    exact root ▸ typed
  · intro json key member
    obtain ⟨mentions, knows⟩ := (asked key).mp member
    exact ⟨rootField key, dot_not_mem_rootField key, json key mentions knows, rfl⟩

/-- A query with a path into a nested document and one into a text. -/
def mixedPaths : Query :=
  ⟨some [("or", .array [.object [("job.company.name", .string "Vox")], .object [("age", .int 3)]])],
    some [⟨"name.first", .ascending⟩]⟩

theorem path_operators_json_iff_mixedPaths :
    ∃ masked, ∃ keys : List String,
      maskText? ("SELECT * FROM people WHERE job->'company'->>'name'='Vox' OR age=3 " ++
        "ORDER BY name->>'first' ASC") = some masked ∧
      pathOperands masked = keys.map (rootReference people.schema) ∧
      (∀ key, key ∈ keys ↔ mixedPaths.snakeCased.Mentions key ∧ people.schema.KnowsPath key) ∧
      ((∀ operand ∈ pathOperands masked, RefersToJson people.schema operand) ↔
        ∀ key, mixedPaths.snakeCased.Mentions key → people.schema.KnowsPath key →
          people.schema.fieldType? (rootField key) = some .json) := by
  have compiled : (Statement.ofSelect people.schema .reject mixedPaths).map
      (Statement.text people.schema) =
        .ok ("SELECT * FROM people WHERE job->'company'->>'name'='Vox' OR age=3 " ++
          "ORDER BY name->>'first' ASC") := by decide +kernel
  obtain ⟨statement, selected, text⟩ := exists_of_map_eq_ok compiled
  rw [← text]
  exact path_operators_json_iff (by decide) (by decide) selected

/-- A path into a text is written like one into a document. -/
theorem applies_path_to_text :
    ∃ statement masked,
      Statement.ofSelect people.schema .reject ⟨some [("name.first", .string "Jon")], none⟩ =
        .ok statement ∧
      maskText? (statement.text people.schema) = some masked ∧
      "name" ∈ pathOperands masked ∧ ¬ RefersToJson people.schema "name" := by
  have compiled : (Statement.ofSelect people.schema .reject
      ⟨some [("name.first", .string "Jon")], none⟩).map (Statement.text people.schema) =
        .ok "SELECT * FROM people WHERE name->>'first'='Jon'" := by decide +kernel
  obtain ⟨statement, selected, text⟩ := exists_of_map_eq_ok compiled
  refine ⟨statement, symbols "SELECT * FROM people WHERE name->>" ++
    [.mark, .plain '=', .mark], selected, ?_, by decide, ?_⟩
  · rw [text]
    decide +kernel
  · intro refers
    obtain ⟨column, _, typed, same⟩ := refers
    have whole : columnReference people.schema column = column := by
      have alone : people.schema.qualifies = false := rfl
      unfold columnReference
      split <;> simp [alone]
    rw [whole] at same
    subst same
    revert typed
    decide

end Sql

end UniversalQuery
