import UniversalQuery.Proofs.Formula
import UniversalQuery.Proofs.Sql.Grammar

set_option autoImplicit false

/-! Reading predicates as SQL does: literals are opaque, parentheses group, and `AND` binds tighter
than `OR`. A predicate is cut into tokens, and the tokens are read from left to right into
alternatives of factors. -/

namespace UniversalQuery.Sql

inductive Token (α : Type) where
  | opening
  | closing
  | connective (operator : BooleanOperator)
  | leaf (comparison : α)

def Token.map {α β : Type} (convert : α → β) : Token α → Token β
  | .opening => .opening
  | .closing => .closing
  | .connective operator => .connective operator
  | .leaf comparison => .leaf (convert comparison)

/-! ## Tokens -/

def keyword : BooleanOperator → String
  | .and => " AND "
  | .or => " OR "

/-- The operator whose text comes next. -/
def keywordAt? (pieces : List Piece) : Option BooleanOperator :=
  BooleanOperator.all.find? fun operator =>
    (symbols (keyword operator)).isPrefixOf (mask pieces)

/-- The leaf that ends, if there is one. It is held backwards. -/
def heldLeaf (held : List Piece) : List (Token String) :=
  if held = [] then [] else [.leaf (String.ofList (spell held.reverse))]

/-- Cuts a text at its operators and parentheses. What stands between them is a leaf. -/
def cutTokens (held : List Piece) : List Piece → List (Token String)
  | [] => heldLeaf held
  | piece :: rest =>
    match keywordAt? (piece :: rest) with
    | some operator =>
      heldLeaf held ++ .connective operator ::
        cutTokens [] (rest.drop ((keyword operator).length - 1))
    | none =>
      if piece = .plain '(' then heldLeaf held ++ .opening :: cutTokens [] rest
      else if piece = .plain ')' then heldLeaf held ++ .closing :: cutTokens [] rest
      else cutTokens (piece :: held) rest
termination_by pieces => pieces.length

/-! ## Formulas -/

/-- What is read between two parentheses so far: the alternatives that have ended, each a list of
factors, and the factors of the alternative that has not. -/
structure Level (α : Type) where
  alternatives : List (List (Formula α))
  factors : List (Formula α)

def Level.formula {α : Type} (level : Level α) : Formula α :=
  .join .or ((level.alternatives ++ [level.factors]).map (.join .and))

mutual

/-- Reads tokens where an operand has to come. The levels around the present one are outside it. -/
def readOperand {α : Type} (outer : List (Level α)) (level : Level α) :
    List (Token α) → Option (Formula α)
  | .leaf comparison :: rest =>
    readOperator outer ⟨level.alternatives, level.factors ++ [.leaf comparison]⟩ rest
  | .opening :: rest => readOperand (level :: outer) ⟨[], []⟩ rest
  | _ => none

/-- Reads tokens where an operator has to come or the level has to end. -/
def readOperator {α : Type} (outer : List (Level α)) (level : Level α) :
    List (Token α) → Option (Formula α)
  | [] => if outer.isEmpty then some level.formula else none
  | .connective .and :: rest => readOperand outer level rest
  | .connective .or :: rest => readOperand outer ⟨level.alternatives ++ [level.factors], []⟩ rest
  | .closing :: rest =>
    match outer with
    | [] => none
    | around :: outer =>
      readOperator outer ⟨around.alternatives, around.factors ++ [level.formula]⟩ rest
  | _ => none

end

/-- The formula of a list of tokens. No tokens ask for nothing. -/
def readTokens {α : Type} : List (Token α) → Option (Formula α)
  | [] => some (.join .and [])
  | token :: rest => readOperand [] ⟨[], []⟩ (token :: rest)

def readPredicate? (text : String) : Option (Formula String) :=
  (scan text.toList).bind fun pieces => readTokens (cutTokens [] pieces)

end UniversalQuery.Sql
