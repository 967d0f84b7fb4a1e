import UniversalQuery.Text.Words

set_option autoImplicit false

/-! Snake case for field references. Only the words inside a run of word characters are converted;
punctuation, the dots of a path and the underscores around a run stay as they are. -/

namespace UniversalQuery

open Text

/-- Whether a character can stand inside a column name: alphanumeric or an underscore. -/
def isWordChar (c : Char) : Bool :=
  isAlphanumeric c || c == '_'

theorem isWordChar_eq_false_iff {c : Char} :
    isWordChar c = false ↔ isAlphanumeric c = false ∧ c ≠ '_' := by
  simp [isWordChar]

/-- The words of a text in lowercase, with one underscore between them. -/
def snakeWords (text : List Char) : List Char :=
  ['_'].intercalate ((words text).map lowercaseWord)

/-- A run of word characters in snake case. The underscores at its two ends are kept. -/
def snakeRun (run : List Char) : List Char :=
  let leading := run.takeWhile (· == '_')
  let body := run.dropWhile (· == '_')
  let trailing := body.reverse.takeWhile (· == '_')
  let core := (body.reverse.dropWhile (· == '_')).reverse
  leading ++ snakeWords core ++ trailing

/-- Converts every maximal run of word characters and keeps all other characters. The current run
is held backwards. -/
def mapRuns (convert : List Char → List Char) (run : List Char) : List Char → List Char
  | [] => convert run.reverse
  | c :: rest =>
    if isWordChar c then mapRuns convert (c :: run) rest
    else convert run.reverse ++ c :: mapRuns convert [] rest

/-- A field reference in snake case, as a list of characters. -/
def snakeChars (key : List Char) : List Char :=
  mapRuns snakeRun [] key

def snakeKey (key : String) : String :=
  String.ofList (snakeChars key.toList)

/-- Runs end at every character that is no word character, so the text on its left and the text on
its right are converted apart. -/
theorem mapRuns_append_cons (convert : List Char → List Char) (run left : List Char) {c : Char}
    (right : List Char) (outside : isWordChar c = false) :
    mapRuns convert run (left ++ c :: right) =
      mapRuns convert run left ++ c :: mapRuns convert [] right := by
  induction left generalizing run with
  | nil => simp [mapRuns, outside]
  | cons head rest ih =>
    by_cases inside : isWordChar head <;> simp [mapRuns, inside, ih]

@[simp] theorem snakeChars_nil : snakeChars [] = [] := rfl

theorem snakeChars_append_cons (left : List Char) {c : Char} (right : List Char)
    (outside : isWordChar c = false) :
    snakeChars (left ++ c :: right) = snakeChars left ++ c :: snakeChars right :=
  mapRuns_append_cons snakeRun [] left right outside

end UniversalQuery
