import UniversalQuery.Proofs.Sql.ComparisonToken

set_option autoImplicit false

/-! A predicate that is read as SQL reads it means what its document means. The loosest operator that
a predicate remembers is what makes this hold at every depth: it says where parentheses have to
stand. -/

namespace UniversalQuery.Sql

open Formula

variable {schema : Schema} {policy : UnknownFields}

/-! ## Predicates of formulas -/

/-- The text of a predicate is that of a phrase with a formula, and the phrase has the loosest
operator that the predicate remembers. -/
def Renders (schema : Schema) (predicate : Predicate) (formula : Formula (Comparison Value)) :
    Prop :=
  ∃ tokens shape, Phrase predicate.joinedBy tokens shape ∧ Agrees shape formula ∧
    (∀ comparison, .leaf comparison ∈ tokens → Resolved schema comparison) ∧
    Written predicate.text (tokens.flatMap (Token.pieces (comparisonPieces schema)))

/-- The predicates that are not empty are those of formulas, one for each and in order. -/
def Yields (schema : Schema) (predicates : List Predicate)
    (formulas : List (Formula (Comparison Value))) : Prop :=
  List.Forall₂ (Renders schema) (predicates.filter (·.text != "")) formulas

private theorem keyword_eq_separator (operator : BooleanOperator) :
    keyword operator = separator operator := by
  cases operator <;> rfl

private theorem startsPlain_keyword (operator : BooleanOperator) (rest : List Piece) :
    StartsPlain (plainPieces (keyword operator) ++ rest) := by
  cases operator <;> simp [StartsPlain, plainPieces, keyword]

namespace Renders

variable {predicate : Predicate} {formula : Formula (Comparison Value)}

theorem congr {other : Formula (Comparison Value)} (renders : Renders schema predicate formula)
    (agrees : Agrees formula other) : Renders schema predicate other := by
  obtain ⟨tokens, shape, phrase, same, resolved, written⟩ := renders
  exact ⟨tokens, shape, phrase, same.trans agrees, resolved, written⟩

theorem leaf (unquoted : schema.Avoids '\'') {comparison : Comparison Value}
    (resolved : Resolved schema comparison) :
    Renders schema (.atom (comparisonText schema comparison)) (.leaf comparison) := by
  refine ⟨[.leaf comparison], .leaf comparison, .leaf, .refl _, ?_, ?_⟩
  · intro other member
    cases List.mem_singleton.mp member
    exact resolved
  · simpa [Predicate.atom, Token.pieces] using (comparisonPieces_form unquoted resolved).1

/-- An operand gets parentheses exactly where precedence asks for them. -/
theorem operand (renders : Renders schema predicate formula) (operator : BooleanOperator) :
    Renders schema ⟨predicate.operand operator, operator⟩ formula := by
  obtain ⟨text, joinedBy⟩ := predicate
  obtain ⟨tokens, shape, phrase, same, resolved, written⟩ := renders
  cases operator with
  | or =>
    cases joinedBy with
    | or => exact ⟨tokens, shape, phrase, same, resolved, written⟩
    | and => exact ⟨tokens, shape, .loosened phrase, same, resolved, written⟩
  | and =>
    cases joinedBy with
    | and => exact ⟨tokens, shape, phrase, same, resolved, written⟩
    | or =>
      -- An `or` outside parentheses would be looser than the `and` it becomes an operand of.
      refine ⟨_, shape, .parenthesized phrase, same, ?_, ?_⟩
      · intro comparison member
        exact resolved comparison (by simpa using member)
      · have closed : Written (text ++ ")") _ := written.append_plain (by decide)
        have inside : Written ("(" ++ (text ++ ")")) _ := closed.plain_append (by decide)
        simpa [Predicate.operand, Token.pieces, String.append_assoc] using inside

theorem pair {operator : BooleanOperator} {left right : String}
    {first second : Formula (Comparison Value)} (before : Renders schema ⟨left, operator⟩ first)
    (after : Renders schema ⟨right, operator⟩ second) :
    Renders schema ⟨left ++ separator operator ++ right, operator⟩
      (.join operator [first, second]) := by
  obtain ⟨lefts, leftShape, leftPhrase, leftSame, leftResolved, leftWritten⟩ := before
  obtain ⟨rights, rightShape, rightPhrase, rightSame, rightResolved, rightWritten⟩ := after
  refine ⟨_, _, .joined leftPhrase rightPhrase, Agrees.join_pair operator leftSame rightSame,
    ?_, ?_⟩
  · intro comparison member
    rcases List.mem_append.mp member with inLeft | inRight
    · exact leftResolved comparison inLeft
    · exact rightResolved comparison (by simpa using inRight)
  · have unquoted : '\'' ∉ (keyword operator).toList := by cases operator <;> decide
    have whole := leftWritten.append (rightWritten.plain_append unquoted)
      (startsPlain_keyword operator _)
    simpa [Token.pieces, keyword_eq_separator, String.append_assoc] using whole

theorem several (operator : BooleanOperator) {predicates : List Predicate}
    {formulas : List (Formula (Comparison Value))} (nonempty : predicates ≠ [])
    (renders : List.Forall₂ (Renders schema) predicates formulas) :
    Renders schema
      ⟨(separator operator).intercalate (predicates.map (Predicate.operand operator)), operator⟩
      (.join operator formulas) := by
  induction renders with
  | nil => exact absurd rfl nonempty
  | @cons predicate formula rest formulas head tail ih =>
    cases tail with
    | nil =>
      rw [List.map_cons, List.map_nil, String.intercalate_singleton]
      exact (head.operand operator).congr (Agrees.join_singleton operator formula).symm
    | @cons next other rest formulas second tail =>
      have joined := (head.operand operator).pair (ih (List.cons_ne_nil _ _))
      rw [List.map_cons, String.intercalate_cons_of_ne_nil (by simp)]
      exact joined.congr (Agrees.join_cons operator _ _)

theorem text_ne_empty (unquoted : schema.Avoids '\'')
    (renders : Renders schema predicate formula) : predicate.text ≠ "" := by
  obtain ⟨tokens, shape, phrase, _, resolved, written⟩ := renders
  intro empty
  have nothing := written.scan_eq
  rw [empty] at nothing
  have noPieces : tokens.flatMap (Token.pieces (comparisonPieces schema)) = [] :=
    (Option.some.inj nothing).symm
  cases tokens with
  | nil => exact phrase.tokens_ne_nil rfl
  | cons token rest =>
    have first := (List.flatMap_eq_nil_iff.mp noPieces) token List.mem_cons_self
    cases token with
    | opening => cases first
    | closing => cases first
    | connective operator => cases operator <;> cases first
    | leaf comparison =>
      have known := resolved comparison List.mem_cons_self
      exact (comparisonPieces_starts unquoted known).1 first

/-- A predicate of a formula is read as the formula, up to how operands are grouped. -/
theorem reads (plain : schema.PlainNames) (renders : Renders schema predicate formula) :
    ∃ reading, readPredicate? predicate.text = some (reading.map (comparisonText schema)) ∧
      Agrees reading formula := by
  obtain ⟨tokens, shape, phrase, same, resolved, written⟩ := renders
  obtain ⟨reading, read, agrees⟩ := phrase.reads
  have leaves := fun comparison member => isLeaf_comparisonText plain (resolved comparison member)
  have cut := phrase.cutTokens_eq leaves endsLeaf_nil
  refine ⟨reading, ?_, agrees.trans same⟩
  simp only [List.append_nil, cutTokens, heldLeaf_nil] at cut
  rw [readPredicate?, written.scan_eq, Option.bind_some, cut, readTokens_map, read,
    Option.map_some]

end Renders

/-! ## Predicates of documents -/

namespace Yields

variable {predicates : List Predicate} {formulas : List (Formula (Comparison Value))}

theorem append {others : List Predicate} {rest : List (Formula (Comparison Value))}
    (first : Yields schema predicates formulas) (second : Yields schema others rest) :
    Yields schema (predicates ++ others) (formulas ++ rest) := by
  unfold Yields
  rw [List.filter_append]
  exact List.rel_append first second

theorem singleton (unquoted : schema.Avoids '\'') {predicate : Predicate}
    {formula : Formula (Comparison Value)} (renders : Renders schema predicate formula) :
    Yields schema [predicate] [formula] := by
  have nonempty := renders.text_ne_empty unquoted
  simpa [Yields, nonempty] using renders

theorem leaf (unquoted : schema.Avoids '\'') {comparison : Comparison Value} {text : String}
    (resolved : Resolved schema comparison) (same : comparisonText schema comparison = text) :
    Yields schema [.atom text] [.leaf comparison] :=
  singleton unquoted (same ▸ Renders.leaf unquoted resolved)

/-- Joining predicates joins their formulas. -/
theorem join (unquoted : schema.Avoids '\'') (operator : BooleanOperator)
    (yields : Yields schema predicates formulas) :
    Yields schema [.join operator predicates] (joined? operator formulas).toList := by
  unfold Predicate.join
  unfold Yields at yields
  -- Only the predicates that are not empty matter, and they are one for each formula.
  generalize predicates.filter (·.text != "") = kept at yields
  cases yields with
  | nil => exact .nil
  | @cons predicate formula rest formulas head tail =>
    cases tail with
    | nil =>
      exact singleton unquoted (head.congr (Agrees.join_singleton operator formula).symm)
    | cons second tail =>
      exact singleton unquoted
        (Renders.several operator (List.cons_ne_nil _ _) (.cons head (.cons second tail)))

theorem renders {predicate : Predicate} {formula? : Option (Formula (Comparison Value))}
    (yields : Yields schema [predicate] formula?.toList) (nonempty : predicate.text ≠ "") :
    ∃ formula, formula? = some formula ∧ Renders schema predicate formula := by
  unfold Yields at yields
  rw [List.filter_singleton, bne_iff_ne.mpr nonempty, cond_true] at yields
  cases formula? with
  | none => cases yields
  | some formula =>
    cases yields with
    | cons head _ => exact ⟨formula, rfl, head⟩

theorem eq_none {predicate : Predicate} {formula? : Option (Formula (Comparison Value))}
    (yields : Yields schema [predicate] formula?.toList) (empty : predicate.text = "") :
    formula? = none := by
  unfold Yields at yields
  rw [List.filter_singleton, bne_eq_false_iff_eq.mpr empty, cond_false] at yields
  cases formula? with
  | none => rfl
  | some formula => cases yields

end Yields

private theorem yields_bounds (unquoted : schema.Avoids '\'') {key : String} {type : FieldType}
    (known : schema.fieldType? (rootField key) = some type)
    (plain : (FieldPath.ofKey key).isPlain = true)
    (bounds : List (ComparisonOperator × Value)) :
    Yields schema (bounds.map fun bound => .atom (boundText schema key type bound))
      (bounds.map fun bound => .leaf ⟨key, .bound bound.1, bound.2⟩) := by
  have root := FieldPath.root_of_isPlain plain
  induction bounds with
  | nil => exact .nil
  | cons bound rest ih =>
    have head : Yields schema [.atom (boundText schema key type bound)]
        [.leaf ⟨key, .bound bound.1, bound.2⟩] := by
      refine .leaf unquoted (by simp [Resolved, known]) ?_
      rw [comparisonText_bound known, rootField, root]
    exact head.append ih

private theorem yields_field (unquoted : schema.Avoids '\'') {key : String} {value : Value}
    {condition : Option Condition}
    (classified : ClassifiedField schema policy key value condition) :
    Yields schema (renderGroup schema condition.toList)
      (fieldFormula? schema key value).toList := by
  cases classified with
  | dropped unknown =>
    rw [fieldFormula?_unknown unknown]
    exact .nil
  | path known dotted =>
    have leaf := fieldFormula?_leaf value known fun plain => by simp [plain] at dotted
    rw [leaf]
    exact .leaf unquoted (by simp [Resolved, known]) (comparisonText_path known dotted value)
  | containment known plain =>
    have leaf := fieldFormula?_leaf value known fun _ scalar => absurd rfl scalar
    have root := FieldPath.root_of_isPlain plain
    rw [leaf]
    refine .leaf unquoted (by simp [Resolved, known]) ?_
    rw [comparisonText_containment known plain, rootField, root]
  | range known plain scalar ranged =>
    rw [fieldFormula?_object known plain scalar, boundFormulas_of_rangeBounds ranged]
    exact .join unquoted .and (yields_bounds unquoted known plain _)
  | equality known plain scalar whole =>
    have root := FieldPath.root_of_isPlain plain
    rw [fieldFormula?_leaf _ known fun _ _ => whole]
    refine .leaf unquoted (by simp [Resolved, known]) ?_
    rw [comparisonText_equality known plain scalar, rootField, root]

mutual

/-- An entry yields what it asks for, whatever it holds. -/
theorem yields_entry (unquoted : schema.Avoids '\'') (key : String) :
    (value : Value) → {condition : Option Condition} →
    classifyEntry schema policy key value = .ok condition →
    Yields schema (renderGroup schema condition.toList) (entryFormula? schema key value).toList
  | value, condition, classified => by
    cases named : BooleanOperator.ofKey? key with
    | none =>
      rw [classifyEntry_field named] at classified
      rw [entryFormula?_field named]
      exact yields_field unquoted (classifiedField classified)
    | some operator =>
      obtain ⟨items, groups, rfl, members, rfl⟩ := classifyEntry_operator named classified
      rw [entryFormula?_operator named]
      exact .join unquoted operator (yields_members unquoted items members)

theorem yields_members (unquoted : schema.Avoids '\'') {operator : BooleanOperator} :
    (items : List Value) → {groups : List (List Condition)} →
    classifyGroups schema policy operator items = .ok groups →
    Yields schema (renderGroups schema groups) (memberFormulas schema items)
  | [], _, classified => by
    cases classified
    exact .nil
  | item :: rest, _, classified => by
    obtain ⟨fields, group, others, rfl, first, later, rfl⟩ := classifyGroups_cons classified
    exact (yields_document unquoted fields first).append (yields_members unquoted rest later)

theorem yields_document (unquoted : schema.Avoids '\'') :
    (document : List (String × Value)) → {conditions : List Condition} →
    classify schema policy document = .ok conditions →
    Yields schema (renderGroup schema conditions) (documentFormulas schema document)
  | [], _, classified => by
    cases classified
    exact .nil
  | (key, value) :: rest, _, classified => by
    obtain ⟨condition, others, first, later, rfl⟩ := classify_cons classified
    rw [renderGroup_append]
    exact (yields_entry unquoted key value first).append (yields_document unquoted rest later)

end

/-- A predicate that is not empty is one of the meaning of its document. -/
theorem renders_document (unquoted : schema.Avoids '\'') {document : Document} {text : String}
    (compiled : predicateText schema policy document = .ok text) (nonempty : text ≠ "") :
    ∃ joinedBy meaning, documentMeaning? schema document = some meaning ∧
      Renders schema ⟨text, joinedBy⟩ meaning := by
  obtain ⟨conditions, classified, rfl⟩ := exists_of_map_eq_ok compiled
  have yields := (yields_document unquoted document classified).join unquoted .and
  obtain ⟨meaning, asked, renders⟩ := yields.renders nonempty
  exact ⟨_, meaning, asked, renders⟩

/-- The predicate of a document is read as the conjunction of what its entries ask for. An empty
predicate asks for nothing. -/
theorem reads_predicateText (plain : schema.PlainNames) {document : Document} {text : String}
    (compiled : predicateText schema policy document = .ok text) :
    ∃ reading, readPredicate? text = some (reading.map (comparisonText schema)) ∧
      Agrees reading (.join .and (documentFormulas schema document)) := by
  by_cases empty : text = ""
  · obtain ⟨conditions, classified, same⟩ := exists_of_map_eq_ok compiled
    have yields := (yields_document plain.quote document classified).join plain.quote .and
    have nothing : documentFormulas schema document = [] :=
      joined?_eq_none_iff.mp (yields.eq_none (same.trans empty))
    refine ⟨.join .and [], ?_, ?_⟩
    · simp [empty, readPredicate?, scan, cutTokens, heldLeaf_nil, readTokens]
    · rw [nothing]
      exact .refl _
  · obtain ⟨joinedBy, meaning, asked, renders⟩ := renders_document plain.quote compiled empty
    obtain ⟨reading, read, agrees⟩ := renders.reads plain
    have joined := eq_join_of_joined? asked
    exact ⟨reading, read, joined ▸ agrees⟩

/-- A predicate means what its document means: it is read as a formula that has the comparisons of
the document as its leaves, in order and each once, and the same value whatever holds. -/
theorem predicateText_means (plain : schema.PlainNames) {document : Document} {text : String}
    (compiled : predicateText schema policy document = .ok text) (nonempty : text ≠ "") :
    ∃ reading meaning : Formula (Comparison Value),
      readPredicate? text = some (reading.map (comparisonText schema)) ∧
      documentMeaning? schema document = some meaning ∧
      reading.leaves = meaning.leaves ∧
      ∀ truth, reading.eval truth = meaning.eval truth := by
  obtain ⟨joinedBy, meaning, asked, renders⟩ := renders_document plain.quote compiled nonempty
  obtain ⟨reading, read, agrees⟩ := renders.reads plain
  exact ⟨reading, meaning, read, asked, agrees.leaves, agrees.eval⟩

/-- An `or` that comes to the top through operators with a single operand. -/
def adults : Document :=
  [("or", .array [.object [("and", .array [.object [("or", .array [
      .object [("name", .string "Jon")],
      .object [("age", .object [("gte", .int 18), ("lt", .int 65)])]])]])], .object []]),
    ("job.title", .string "it's")]

theorem predicateText_means_adults :
    ∃ reading meaning : Formula (Comparison Value),
      readPredicate? "(name='Jon' OR age >= 18 AND age < 65) AND job->>'title'='it''s'" =
        some (reading.map (comparisonText people.schema)) ∧
      documentMeaning? people.schema adults = some meaning ∧
      reading.leaves = meaning.leaves ∧
      ∀ truth, reading.eval truth = meaning.eval truth := by
  have compiled : predicateText people.schema .reject adults =
      .ok "(name='Jon' OR age >= 18 AND age < 65) AND job->>'title'='it''s'" := by decide +kernel
  exact predicateText_means (Model.schema_plainNames (by decide)) compiled (by decide)

end UniversalQuery.Sql
