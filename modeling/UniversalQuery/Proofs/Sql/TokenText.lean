import UniversalQuery.Proofs.Sql.Phrase

set_option autoImplicit false

/-! The text of a phrase is cut into its tokens if no leaf holds a parenthesis or something that
could be taken for an operator. -/

namespace UniversalQuery.Sql

/-- No parenthesis, and no blank that an operator could start at. -/
inductive Unbroken : List Symbol → Prop where
  | nil : Unbroken []
  | blank {next : Symbol} {rest : List Symbol} :
      next ≠ .plain 'A' → next ≠ .plain 'O' → Unbroken (next :: rest) →
      Unbroken (.plain ' ' :: next :: rest)
  | other {symbol : Symbol} {rest : List Symbol} :
      symbol ≠ .plain ' ' → symbol ≠ .plain '(' → symbol ≠ .plain ')' → Unbroken rest →
      Unbroken (symbol :: rest)

theorem Unbroken.append {left right : List Symbol} (first : Unbroken left)
    (second : Unbroken right) : Unbroken (left ++ right) := by
  induction first with
  | nil => exact second
  | blank notAnd notOr _ ih => exact .blank notAnd notOr ih
  | other notBlank notOpening notClosing _ ih => exact .other notBlank notOpening notClosing ih

def Symbol.isSolid (symbol : Symbol) : Bool :=
  symbol ∉ [.plain ' ', .plain '(', .plain ')']

theorem unbroken_of_solid {masked : List Symbol} (solid : masked.all Symbol.isSolid = true) :
    Unbroken masked := by
  induction masked with
  | nil => exact .nil
  | cons symbol rest ih =>
    rw [List.all_cons, Bool.and_eq_true] at solid
    obtain ⟨first, others⟩ := solid
    simp only [Symbol.isSolid, List.mem_cons, List.not_mem_nil, or_false, not_or,
      decide_eq_true_eq] at first
    exact .other first.1 first.2.1 first.2.2 (ih others)

/-! ## Operators -/

theorem symbols_keyword (operator : BooleanOperator) :
    symbols (keyword operator) = match operator with
      | .and => [.plain ' ', .plain 'A', .plain 'N', .plain 'D', .plain ' ']
      | .or => [.plain ' ', .plain 'O', .plain 'R', .plain ' '] := by
  cases operator <;> decide

private theorem keywordAt?_keyword (operator : BooleanOperator) (rest : List Piece) :
    keywordAt? (plainPieces (keyword operator) ++ rest) = some operator := by
  cases operator <;> simp [keywordAt?, BooleanOperator.all, symbols_keyword]

theorem keywordAt?_of_solid {piece : Piece} {rest : List Piece}
    (solid : piece.symbol ≠ .plain ' ') : keywordAt? (piece :: rest) = none := by
  have different : ¬ Symbol.plain ' ' = piece.symbol := Ne.symm solid
  simp [keywordAt?, BooleanOperator.all, symbols_keyword, mask, different]

private theorem keywordAt?_of_next {piece next : Piece} {rest : List Piece}
    (notAnd : next.symbol ≠ .plain 'A') (notOr : next.symbol ≠ .plain 'O') :
    keywordAt? (piece :: next :: rest) = none := by
  have differentAnd : ¬ Symbol.plain 'A' = next.symbol := Ne.symm notAnd
  have differentOr : ¬ Symbol.plain 'O' = next.symbol := Ne.symm notOr
  simp [keywordAt?, BooleanOperator.all, symbols_keyword, mask, differentAnd, differentOr]

/-! ## Cutting -/

private theorem cutTokens_hold {piece : Piece} {rest : List Piece}
    (noKeyword : keywordAt? (piece :: rest) = none) (notOpening : piece.symbol ≠ .plain '(')
    (notClosing : piece.symbol ≠ .plain ')') (held : List Piece) :
    cutTokens held (piece :: rest) = cutTokens (piece :: held) rest := by
  have solidOpening : piece ≠ .plain '(' := fun same => notOpening (by rw [same]; rfl)
  have solidClosing : piece ≠ .plain ')' := fun same => notClosing (by rw [same]; rfl)
  rw [cutTokens, noKeyword]
  simp [solidOpening, solidClosing]

/-- Unbroken pieces are held until something else comes. -/
theorem cutTokens_unbroken {pieces : List Piece} (unbroken : Unbroken (mask pieces))
    (held rest : List Piece) :
    cutTokens held (pieces ++ rest) = cutTokens (pieces.reverse ++ held) rest := by
  induction pieces generalizing held with
  | nil => rfl
  | cons piece pieces ih =>
    -- Symbols decide whether a piece is held, so the cases are those of the masked text.
    have step : cutTokens held (piece :: (pieces ++ rest)) =
        cutTokens (piece :: held) (pieces ++ rest) ∧ Unbroken (mask pieces) := by
      generalize shape : mask (piece :: pieces) = masked at unbroken
      cases unbroken with
      | nil => cases shape
      | @blank next tail notAnd notOr inner =>
        obtain ⟨blank, following⟩ := List.cons.inj shape
        cases pieces with
        | nil => cases following
        | cons second pieces =>
          have nextSymbol : second.symbol = next := (List.cons.inj following).1
          refine ⟨cutTokens_hold ?_ ?_ ?_ held, ?_⟩
          · exact keywordAt?_of_next (nextSymbol ▸ notAnd) (nextSymbol ▸ notOr)
          · rw [blank]; decide
          · rw [blank]; decide
          · rw [mask, following]
            exact inner
      | @other symbol tail notBlank notOpening notClosing inner =>
        obtain ⟨first, following⟩ := List.cons.inj shape
        refine ⟨cutTokens_hold ?_ ?_ ?_ held, ?_⟩
        · exact keywordAt?_of_solid (first ▸ notBlank)
        · exact first ▸ notOpening
        · exact first ▸ notClosing
        · rw [mask, following]
          exact inner
    rw [List.cons_append, step.1, ih step.2, List.reverse_cons, List.append_assoc,
      List.singleton_append]

/-- What ends a leaf: the end of the text, an operator or a parenthesis. -/
def EndsLeaf (pieces : List Piece) : Prop :=
  ∀ held, cutTokens held pieces = heldLeaf held ++ cutTokens [] pieces

theorem heldLeaf_nil : heldLeaf [] = [] := rfl

theorem endsLeaf_nil : EndsLeaf [] := by
  intro held
  simp [cutTokens, heldLeaf_nil]

theorem cutTokens_keyword (operator : BooleanOperator) (held rest : List Piece) :
    cutTokens held (plainPieces (keyword operator) ++ rest) =
      heldLeaf held ++ .connective operator :: cutTokens [] rest := by
  have found := keywordAt?_keyword operator rest
  cases operator with
  | and =>
    change keywordAt? (.plain ' ' :: .plain 'A' :: .plain 'N' :: .plain 'D' :: .plain ' ' :: rest) =
      some .and at found
    change cutTokens held (.plain ' ' :: .plain 'A' :: .plain 'N' :: .plain 'D' :: .plain ' ' ::
      rest) = _
    rw [cutTokens, found]
    rfl
  | or =>
    change keywordAt? (.plain ' ' :: .plain 'O' :: .plain 'R' :: .plain ' ' :: rest) =
      some .or at found
    change cutTokens held (.plain ' ' :: .plain 'O' :: .plain 'R' :: .plain ' ' :: rest) = _
    rw [cutTokens, found]
    rfl

private theorem cutTokens_opening (held rest : List Piece) :
    cutTokens held (plainPieces "(" ++ rest) = heldLeaf held ++ .opening :: cutTokens [] rest := by
  have solid : keywordAt? (.plain '(' :: rest) = none := keywordAt?_of_solid (by decide)
  change cutTokens held (.plain '(' :: rest) = _
  rw [cutTokens, solid]
  simp

theorem cutTokens_closing (held rest : List Piece) :
    cutTokens held (plainPieces ")" ++ rest) = heldLeaf held ++ .closing :: cutTokens [] rest := by
  have solid : keywordAt? (.plain ')' :: rest) = none := keywordAt?_of_solid (by decide)
  change cutTokens held (.plain ')' :: rest) = _
  rw [cutTokens, solid]
  simp

private theorem endsLeaf_keyword (operator : BooleanOperator) (rest : List Piece) :
    EndsLeaf (plainPieces (keyword operator) ++ rest) := by
  intro held
  rw [cutTokens_keyword, cutTokens_keyword, heldLeaf_nil, List.nil_append]

private theorem endsLeaf_closing (rest : List Piece) : EndsLeaf (plainPieces ")" ++ rest) := by
  intro held
  rw [cutTokens_closing, cutTokens_closing, heldLeaf_nil, List.nil_append]

/-! ## Phrases -/

variable {α : Type}

def Token.pieces (leafPieces : α → List Piece) : Token α → List Piece
  | .opening => plainPieces "("
  | .closing => plainPieces ")"
  | .connective operator => plainPieces (keyword operator)
  | .leaf comparison => leafPieces comparison

/-- A text that is one leaf when it is cut. -/
structure IsLeaf (text : String) (pieces : List Piece) : Prop where
  written : Written text pieces
  nonempty : pieces ≠ []
  starts : StartsPlain pieces
  unbroken : Unbroken (mask pieces)

private theorem cutTokens_leaf {text : String} {pieces rest : List Piece}
    (leaf : IsLeaf text pieces) (ends : EndsLeaf rest) :
    cutTokens [] (pieces ++ rest) = .leaf text :: cutTokens [] rest := by
  have held : pieces.reverse ≠ [] := fun empty => leaf.nonempty (List.reverse_eq_nil_iff.mp empty)
  rw [cutTokens_unbroken leaf.unbroken, List.append_nil, ends]
  simp [heldLeaf, leaf.nonempty, ← leaf.written.spelled]

/-- The text of a phrase is cut into its tokens. -/
theorem Phrase.cutTokens_eq {leafText : α → String} {leafPieces : α → List Piece}
    {operator : BooleanOperator} {tokens : List (Token α)} {formula : Formula α}
    (phrase : Phrase operator tokens formula)
    (leaves : ∀ comparison, .leaf comparison ∈ tokens →
      IsLeaf (leafText comparison) (leafPieces comparison))
    {rest : List Piece} (ends : EndsLeaf rest) :
    cutTokens [] (tokens.flatMap (Token.pieces leafPieces) ++ rest) =
      tokens.map (Token.map leafText) ++ cutTokens [] rest := by
  induction phrase generalizing rest with
  | @leaf comparison =>
    have leaf := leaves comparison (List.mem_singleton.mpr rfl)
    simpa [Token.pieces, Token.map] using cutTokens_leaf leaf ends
  | @parenthesized operator tokens formula _ ih =>
    have inner := ih (fun comparison member => leaves comparison (by simp [member]))
      (endsLeaf_closing rest)
    simp only [List.flatMap_cons, List.flatMap_append, List.flatMap_nil, List.append_nil,
      Token.pieces, List.append_assoc, cutTokens_opening, heldLeaf_nil, List.nil_append]
    rw [inner, cutTokens_closing]
    simp [Token.map, heldLeaf_nil]
  | loosened _ ih => exact ih leaves ends
  | @joined operator left right _ _ _ _ leftIH rightIH =>
    have before := leftIH (fun comparison member => leaves comparison (by simp [member]))
      (endsLeaf_keyword operator (right.flatMap (Token.pieces leafPieces) ++ rest))
    have after := rightIH (fun comparison member => leaves comparison (by simp [member])) ends
    simp only [List.flatMap_cons, List.flatMap_append, Token.pieces, List.append_assoc]
    rw [before, cutTokens_keyword, after]
    simp [Token.map, heldLeaf_nil]

end UniversalQuery.Sql
