import UniversalQuery.Proofs.Sql.QuotedText
import UniversalQuery.Sql.Assignment

set_option autoImplicit false

/-! Expressions of JSON columns. Whatever `jsonb_set` does, the expression that an update gives a
column replaces parts of its value one after the other: the first change is innermost. -/

namespace UniversalQuery.Sql

variable {α : Type} {set : α → String → String → α} {column : String} {own : α}

/-- What an expression for a column evaluates to, given the value of the column and a meaning of
`jsonb_set`, which takes a value, the text of a path and the text of a new value. -/
inductive Evaluates (set : α → String → String → α) (column : String) (own : α) :
    String → α → Prop where
  | column : Evaluates set column own (column ++ "::jsonb") own
  | call {inner path new : String} {result : α} :
      Evaluates set column own inner result →
      Evaluates set column own
        ("jsonb_set(" ++ inner ++ ", " ++ quote path ++ ", " ++ quote new ++ "::jsonb)")
        (set result path new)

private theorem reverse_escapeChars (text : List Char) :
    (escapeChars text).reverse = escapeChars text.reverse := by
  have spelled : ∀ chars : List Char,
      escapeChars chars = chars.flatMap fun c => if c = '\'' then ['\'', '\''] else [c] := by
    intro chars
    induction chars with
    | nil => rfl
    | cons c rest ih => by_cases quote : c = '\'' <;> simp [escapeChars, quote, ih]
  rw [spelled, spelled, List.reverse_flatMap]
  congr 1
  funext c
  by_cases quote : c = '\'' <;> simp [quote]

/-- A literal behind a blank is told apart from the text before it, read from the end. -/
theorem append_quote_inj {left right first second : String}
    (same : left ++ ", " ++ quote first = right ++ ", " ++ quote second) :
    left = right ∧ first = second := by
  have reversed : ∀ text content : String,
      (text ++ ", " ++ quote content).toList.reverse =
        (quote (String.ofList content.toList.reverse)).toList ++
          (' ' :: ',' :: text.toList.reverse) := by
    intro text content
    simp [quote, escape, reverse_escapeChars]
  have read := congrArg (fun text : String => readLiteral? text.toList.reverse) same
  simp only [reversed] at read
  rw [readLiteral?_quote _ _ (by simp), readLiteral?_quote _ _ (by simp)] at read
  simp only [Option.some.injEq, Prod.mk.injEq, List.cons.injEq, true_and] at read
  obtain ⟨contents, texts⟩ := read
  constructor
  · exact String.toList_inj.mp (List.reverse_inj.mp texts)
  · have chars := congrArg String.toList contents
    rw [String.toList_ofList, String.toList_ofList] at chars
    exact String.toList_inj.mp (List.reverse_inj.mp chars)

private theorem column_ne_call (arguments : String) :
    column ++ "::jsonb" ≠ arguments ++ "::jsonb)" := by
  intro same
  have first : (column ++ "::jsonb").toList.getLast? = some 'b' := by simp
  have second : (arguments ++ "::jsonb)").toList.getLast? = some ')' := by simp
  rw [same, second] at first
  cases first

/-- An expression has one value only, whatever the name of the column is. -/
theorem Evaluates.unique {text other : String} {first second : α}
    (evaluation : Evaluates set column own text first)
    (another : Evaluates set column own other second) (same : text = other) : first = second := by
  induction evaluation generalizing other second with
  | column =>
    cases another with
    | column => rfl
    | call => exact absurd same (column_ne_call _)
  | call _ ih =>
    cases another with
    | column => exact absurd same.symm (column_ne_call _)
    | call inner =>
      obtain ⟨before, rfl⟩ := append_quote_inj ((String.append_left_inj _).mp same)
      obtain ⟨call, rfl⟩ := append_quote_inj before
      rw [ih inner ((String.append_right_inj _).mp call)]

/-- The text of a path as `jsonb_set` gets it. -/
def pathText (segments : List String) : String :=
  "\x7b" ++ ",".intercalate segments ++ "\x7d"

theorem Evaluates.attributes (updates : List AttributeUpdate) {expression : String} {value : α}
    (evaluation : Evaluates set column own expression value) :
    Evaluates set column own (updates.foldl Assignment.attributeText expression)
      (updates.foldl
        (fun value update => set value (pathText update.segments) update.value.toPlainJson.compact)
        value) := by
  induction updates generalizing expression value with
  | nil => exact evaluation
  | cons update rest ih => exact ih (.call evaluation)

/-- The expression of a column has the value that the changes of its parts leave, in order. -/
theorem evaluates_attributes_iff {updates : List AttributeUpdate} {result : α} :
    Evaluates set column own
        (updates.foldl Assignment.attributeText (column ++ "::jsonb")) result ↔
      result = updates.foldl
        (fun value update => set value (pathText update.segments) update.value.toPlainJson.compact)
        own := by
  have applied : Evaluates set column own
      (updates.foldl Assignment.attributeText (column ++ "::jsonb")) _ :=
    .attributes updates .column
  constructor
  · exact fun evaluation => evaluation.unique applied rfl
  · intro same
    subst same
    exact applied

end UniversalQuery.Sql
