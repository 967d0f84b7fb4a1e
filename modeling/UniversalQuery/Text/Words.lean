import UniversalQuery.Text.Alphanumeric
import UniversalQuery.Text.LetterCase

set_option autoImplicit false

/-! Words of an identifier. A text is cut at everything that is not alphanumeric and at its case
boundaries, so that `lastName`, `HTTPServer` and `last_name` fall into two words each. -/

namespace UniversalQuery.Text

/-- The case of the letters read since the last word boundary. Caseless characters keep it. -/
inductive CaseMode where
  | boundary
  | lower
  | upper
deriving DecidableEq, Repr

def CaseMode.after (mode : CaseMode) (c : Char) : CaseMode :=
  if isLowercase c then .lower else if isUppercase c then .upper else mode

/-- Cuts an alphanumeric text at its case boundaries. A word ends after a character that leaves the
mode lower when an uppercase one follows; it ends before an uppercase character that stands after
uppercase ones and is followed by a lowercase one. The current word is held backwards. -/
def splitAtCase (mode : CaseMode) (word : List Char) : List Char → List (List Char)
  | [] => []
  | [c] => [(c :: word).reverse]
  | c :: next :: rest =>
    if mode.after c = .lower ∧ isUppercase next then
      (c :: word).reverse :: splitAtCase .boundary [] (next :: rest)
    else if mode = .upper ∧ isUppercase c ∧ isLowercase next then
      word.reverse :: splitAtCase .boundary [c] (next :: rest)
    else
      splitAtCase (mode.after c) (c :: word) (next :: rest)

/-- The maximal alphanumeric pieces of a text, and empty ones where separators meet. The current
piece is held backwards. -/
def alphanumericPieces (piece : List Char) : List Char → List (List Char)
  | [] => [piece.reverse]
  | c :: rest =>
    if isAlphanumeric c then alphanumericPieces (c :: piece) rest
    else piece.reverse :: alphanumericPieces [] rest

def words (text : List Char) : List (List Char) :=
  (alphanumericPieces [] text).flatMap (splitAtCase .boundary [])

/-- A word in lowercase. A sigma that ends it takes its final form. -/
def lowercaseWord : List Char → List Char
  | [] => []
  | [c] => if c = 'Σ' then ['ς'] else lowercase c
  | c :: rest => lowercase c ++ lowercaseWord rest

end UniversalQuery.Text
