import UniversalQuery.Proofs.Numeral
import UniversalQuery.Proofs.SchemaNames
import UniversalQuery.Proofs.Sql.QuotedText
import UniversalQuery.Sql.Statement

set_option autoImplicit false

/-! The grammar of statements. Its symbols are characters and marks, one mark for each quoted
literal, so that nothing in it can depend on what stands inside quotes. The only names in it are
those of the schema. -/

namespace UniversalQuery

namespace Sql

open Decimal

/-- A character outside quotes, or the mark of a literal. -/
inductive Symbol where
  | plain (c : Char)
  | mark
deriving DecidableEq, Repr

/-- The symbol of a piece, which does not show the content of a literal. -/
def Piece.symbol : Piece → Symbol
  | .plain c => .plain c
  | .quoted _ => .mark

def mask (pieces : List Piece) : List Symbol :=
  pieces.map Piece.symbol

/-- A text with marks in the place of its literals. There is none if a literal does not end. -/
def maskText? (text : String) : Option (List Symbol) :=
  (scan text.toList).map mask

def symbols (text : String) : List Symbol :=
  text.toList.map .plain

@[simp] theorem mask_append (left right : List Piece) :
    mask (left ++ right) = mask left ++ mask right := by
  simp [mask]

@[simp] theorem mask_plainPieces (text : String) : mask (plainPieces text) = symbols text := by
  simp [mask, plainPieces, symbols, Function.comp_def, Piece.symbol]

@[simp] theorem symbols_append (left right : String) :
    symbols (left ++ right) = symbols left ++ symbols right := by
  simp [symbols]

theorem startsPlain_of_mask {pieces : List Piece} (starts : (mask pieces).head? ≠ some .mark) :
    StartsPlain pieces := by
  intro content first
  exact starts (by simp [mask, first, Piece.symbol])

/-! ## Values and references -/

/-- The values that a column is compared with or set to. -/
inductive IsValue : List Symbol → Prop where
  | literal : IsValue [.mark]
  | word {text : String} :
      text ∈ ["null", "true", "false", placeholder] → IsValue (symbols text)
  | numeral {text : List Char} : IsNumeral text → IsValue (text.map .plain)

variable (schema : Schema)

inductive IsColumn : List Symbol → Prop where
  | bare {name : String} : schema.HasColumn name → IsColumn (symbols name)
  | qualified {table name : String} :
      schema.HasTable table → schema.HasColumn name →
      IsColumn (symbols table ++ symbols "." ++ symbols name)

/-- The steps into a JSON column. -/
inductive IsPath : List Symbol → Prop where
  | last : IsPath (symbols "->>" ++ [.mark])
  | step {rest : List Symbol} : IsPath rest → IsPath (symbols "->" ++ [.mark] ++ rest)

inductive IsReference : List Symbol → Prop where
  | column {column : List Symbol} : IsColumn schema column → IsReference column
  | path {column path : List Symbol} :
      IsColumn schema column → IsPath path → IsReference (column ++ path)

/-! ## Clauses -/

inductive IsComparison : List Symbol → Prop where
  | equality {reference value : List Symbol} :
      IsReference schema reference → IsValue value →
      IsComparison (reference ++ symbols "=" ++ value)
  | bound {column value : List Symbol} {sign : String} :
      IsColumn schema column → sign ∈ [" > ", " >= ", " < ", " <= "] → IsValue value →
      IsComparison (column ++ symbols sign ++ value)
  | containment {column : List Symbol} :
      IsColumn schema column →
      IsComparison (column ++ symbols "::jsonb @> " ++ ([.mark] ++ symbols "::jsonb"))

inductive IsPredicate : List Symbol → Prop where
  | comparison {comparison : List Symbol} :
      IsComparison schema comparison → IsPredicate comparison
  | join {left right : List Symbol} {keyword : String} :
      IsPredicate left → keyword ∈ [" AND ", " OR "] → IsPredicate right →
      IsPredicate (left ++ symbols keyword ++ right)
  | parentheses {inner : List Symbol} :
      IsPredicate inner → IsPredicate (symbols "(" ++ inner ++ symbols ")")

inductive IsWhere : List Symbol → Prop where
  | absent : IsWhere []
  | predicate {predicate : List Symbol} :
      IsPredicate schema predicate → IsWhere (symbols " WHERE " ++ predicate)

/-- One or more items with commas between them. -/
inductive IsSeries (IsItem : List Symbol → Prop) : List Symbol → Prop where
  | one {item : List Symbol} : IsItem item → IsSeries IsItem item
  | more {item rest : List Symbol} :
      IsItem item → IsSeries IsItem rest → IsSeries IsItem (item ++ symbols ", " ++ rest)

inductive IsOrderItem : List Symbol → Prop where
  | intro {reference : List Symbol} {direction : String} :
      IsReference schema reference → direction ∈ [" ASC", " DESC"] →
      IsOrderItem (reference ++ symbols direction)

inductive IsOrder : List Symbol → Prop where
  | absent : IsOrder []
  | items {items : List Symbol} :
      IsSeries (IsOrderItem schema) items → IsOrder (symbols " ORDER BY " ++ items)

/-! ## Statements -/

inductive IsTarget : List Symbol → Prop where
  | intro {name : String} : schema.HasWritable name → IsTarget (symbols name)

inductive IsExpression : List Symbol → Prop where
  | column {name : List Symbol} :
      IsTarget schema name → IsExpression (name ++ symbols "::jsonb")
  | replacement {inner : List Symbol} :
      IsExpression inner →
      IsExpression (symbols "jsonb_set(" ++
        (inner ++ symbols ", " ++ ([.mark] ++ symbols ", " ++ [.mark])) ++ symbols "::jsonb)")

inductive IsAssignment : List Symbol → Prop where
  | value {name value : List Symbol} :
      IsTarget schema name → IsValue value → IsAssignment (name ++ symbols "=" ++ value)
  | expression {name expression : List Symbol} :
      IsTarget schema name → IsExpression schema expression →
      IsAssignment (name ++ symbols "=" ++ expression)

/-- The columns and the values of a row, without the parentheses at the ends. -/
inductive IsRow : List Symbol → Prop where
  | intro {columns values : List Symbol} :
      IsSeries (IsTarget schema) columns → IsSeries IsValue values →
      IsRow (columns ++ symbols ") VALUES (" ++ values)

/-- The statements about the target table. -/
inductive IsStatement : List Symbol → Prop where
  | select {condition order : List Symbol} :
      IsWhere schema condition → IsOrder schema order →
      IsStatement (symbols "SELECT * FROM " ++ symbols schema.table ++ (condition ++ order))
  | count {condition : List Symbol} :
      IsWhere schema condition →
      IsStatement (symbols "SELECT COUNT(*) FROM " ++ symbols schema.table ++ condition)
  | insert {row : List Symbol} :
      IsRow schema row →
      IsStatement (symbols "INSERT INTO " ++ symbols schema.table ++ symbols " (" ++ row ++
        symbols ")")
  | update {assignments condition : List Symbol} :
      IsSeries (IsAssignment schema) assignments → IsWhere schema condition →
      IsStatement (symbols "UPDATE " ++ symbols schema.table ++ symbols " SET " ++
        (assignments ++ condition))
  | remove {condition : List Symbol} :
      IsWhere schema condition →
      IsStatement (symbols "DELETE FROM " ++ symbols schema.table ++ condition)

/-! ## Texts of a form -/

variable {schema}

/-- A text is written so that, with marks for its literals, it has a form. -/
def Masks (text : String) (form : List Symbol → Prop) : Prop :=
  ∃ pieces, Written text pieces ∧ form (mask pieces)

namespace Masks

variable {left right : String} {first second form : List Symbol → Prop}

/-- A text of a form is read back with its marks. -/
theorem exists_maskText (masks : Masks left form) :
    ∃ masked, maskText? left = some masked ∧ form masked := by
  obtain ⟨pieces, written, shape⟩ := masks
  exact ⟨mask pieces, by simp [maskText?, written.scan_eq], shape⟩

theorem mono (masks : Masks left first) (weaker : ∀ masked, first masked → form masked) :
    Masks left form := by
  obtain ⟨pieces, written, shape⟩ := masks
  exact ⟨pieces, written, weaker _ shape⟩

theorem plain {text : String} (unquoted : '\'' ∉ text.toList) (shape : form (symbols text)) :
    Masks text form :=
  ⟨plainPieces text, .plain unquoted, by rwa [mask_plainPieces]⟩

theorem quote (content : String) : Masks (quote content) (· = [.mark]) :=
  ⟨[.quoted content], .quote content, rfl⟩

theorem before {text : String} (unquoted : '\'' ∉ text.toList) (masks : Masks right second)
    (shape : ∀ masked, second masked → form (symbols text ++ masked)) :
    Masks (text ++ right) form := by
  obtain ⟨pieces, written, inner⟩ := masks
  refine ⟨plainPieces text ++ pieces, written.plain_append unquoted, ?_⟩
  rw [mask_append, mask_plainPieces]
  exact shape _ inner

theorem after {text : String} (masks : Masks left first) (unquoted : '\'' ∉ text.toList)
    (shape : ∀ masked, first masked → form (masked ++ symbols text)) :
    Masks (left ++ text) form := by
  obtain ⟨pieces, written, inner⟩ := masks
  refine ⟨pieces ++ plainPieces text, written.append_plain unquoted, ?_⟩
  rw [mask_append, mask_plainPieces]
  exact shape _ inner

theorem enclosed {opening closing : String} (opens : '\'' ∉ opening.toList)
    (masks : Masks left first) (closes : '\'' ∉ closing.toList)
    (shape : ∀ masked, first masked → form (symbols opening ++ masked ++ symbols closing)) :
    Masks (opening ++ left ++ closing) form := by
  obtain ⟨pieces, written, inner⟩ := masks
  refine ⟨_, (written.plain_append opens).append_plain closes, ?_⟩
  rw [mask_append, mask_append, mask_plainPieces, mask_plainPieces]
  exact shape _ inner

/-- Two texts can stand side by side if no literal starts the second one. -/
theorem append (before : Masks left first) (after : Masks right second)
    (starts : ∀ masked, second masked → masked.head? ≠ some .mark)
    (shape : ∀ masked other, first masked → second other → form (masked ++ other)) :
    Masks (left ++ right) form := by
  obtain ⟨lefts, writtenLeft, formLeft⟩ := before
  obtain ⟨rights, writtenRight, formRight⟩ := after
  refine ⟨lefts ++ rights, writtenLeft.append writtenRight ?_, ?_⟩
  · exact startsPlain_of_mask (starts _ formRight)
  · rw [mask_append]
    exact shape _ _ formLeft formRight

/-- Literals on the two sides of a text that is not empty never touch. -/
theorem between {text : String} (before : Masks left first) (after : Masks right second)
    (unquoted : '\'' ∉ text.toList) (nonempty : text.toList ≠ [])
    (shape : ∀ masked other, first masked → second other →
      form (masked ++ symbols text ++ other)) :
    Masks (left ++ text ++ right) form := by
  have tail : Masks (text ++ right)
      (fun masked => ∃ other, second other ∧ masked = symbols text ++ other) :=
    .before unquoted after fun other inner => ⟨other, inner, rfl⟩
  rw [String.append_assoc]
  refine before.append tail ?_ ?_
  · rintro _ ⟨other, _, rfl⟩
    unfold symbols
    cases chars : text.toList with
    | nil => exact absurd chars nonempty
    | cons c rest => simp
  · rintro masked _ formLeft ⟨other, formRight, rfl⟩
    rw [← List.append_assoc]
    exact shape masked other formLeft formRight

/-- Several texts of a form with commas between them are a series. -/
theorem series {α : Type} (text : α → String) (items : List α) (nonempty : items ≠ [])
    (masks : ∀ item ∈ items, Masks (text item) form) :
    Masks (", ".intercalate (items.map text)) (IsSeries form) := by
  induction items with
  | nil => exact absurd rfl nonempty
  | cons item rest ih =>
    have head := masks item List.mem_cons_self
    cases rest with
    | nil => simpa using head.mono fun _ => .one
    | cons next rest =>
      have tail := ih (List.cons_ne_nil _ _) fun item member =>
        masks item (List.mem_cons_of_mem _ member)
      rw [List.map_cons, String.intercalate_cons_of_ne_nil (by simp)]
      exact head.between tail (by decide) (by decide) fun _ _ => .more

end Masks

end Sql

end UniversalQuery
