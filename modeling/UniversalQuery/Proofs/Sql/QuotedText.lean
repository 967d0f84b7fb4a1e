import UniversalQuery.Sql.Literal

set_option autoImplicit false

/-! Texts with quoted literals. A text is read into pieces, the characters outside quotes and the
whole literals; inside a literal a quote is written twice. A text written from pieces is read back
into them unless two literals touch. -/

namespace UniversalQuery.Sql

inductive Piece where
  /-- A character outside quotes. -/
  | plain (c : Char)
  /-- A whole literal, by its content. -/
  | quoted (content : String)
deriving DecidableEq, Repr

/-! ## Reading -/

mutual

/-- The pieces of a text. There are none if a literal does not end. -/
def scan : List Char → Option (List Piece)
  | [] => some []
  | c :: rest => if c = '\'' then scanQuoted [] rest else (scan rest).map (.plain c :: ·)

/-- The pieces of a text that starts inside a literal. The content so far is held backwards. -/
def scanQuoted (content : List Char) : List Char → Option (List Piece)
  | [] => none
  | c :: rest =>
    if c = '\'' then
      match rest with
      | [] => some [.quoted (String.ofList content.reverse)]
      | next :: rest =>
        if next = '\'' then scanQuoted ('\'' :: content) rest
        else (scan (next :: rest)).map (.quoted (String.ofList content.reverse) :: ·)
    else scanQuoted (c :: content) rest

end

/-- The rest of a literal that a text starts inside of, and the text behind it. The content so far
is held backwards. There is nothing if the literal does not end. -/
def readContent? (content : List Char) : List Char → Option (String × List Char)
  | [] => none
  | c :: rest =>
    if c = '\'' then
      match rest with
      | [] => some (String.ofList content.reverse, [])
      | next :: rest =>
        if next = '\'' then readContent? ('\'' :: content) rest
        else some (String.ofList content.reverse, next :: rest)
    else readContent? (c :: content) rest

/-- The content of the literal that a text starts with, and the text behind it. -/
def readLiteral? : List Char → Option (String × List Char)
  | [] => none
  | c :: rest => if c = '\'' then readContent? [] rest else none

private theorem readContent?_cons {c : Char} (content rest : List Char) (inside : c ≠ '\'') :
    readContent? content (c :: rest) = readContent? (c :: content) rest := by
  cases rest <;> simp [readContent?, inside]

/-- A literal ends at its closing quote, unless another quote follows. -/
theorem readContent?_escapeChars (content text rest : List Char)
    (apart : rest.head? ≠ some '\'') :
    readContent? content (escapeChars text ++ '\'' :: rest) =
      some (String.ofList (content.reverse ++ text), rest) := by
  induction text generalizing content with
  | nil =>
    cases rest with
    | nil => simp [escapeChars, readContent?]
    | cons next rest =>
      have different : ¬ next = '\'' := by simpa using apart
      simp [escapeChars, readContent?, different]
  | cons c text ih =>
    by_cases quote : c = '\''
    · subst quote
      simp [escapeChars, readContent?, ih]
    · simpa [escapeChars, quote, readContent?_cons] using ih (c :: content)

theorem readLiteral?_quote (content : String) (rest : List Char)
    (apart : rest.head? ≠ some '\'') :
    readLiteral? ((quote content).toList ++ rest) = some (content, rest) := by
  have read := readContent?_escapeChars [] content.toList rest apart
  simpa [quote, escape, readLiteral?] using read

theorem quote_inj {left right : String} : quote left = quote right ↔ left = right := by
  constructor
  · intro same
    have first := readLiteral?_quote left [] (by simp)
    rw [same, readLiteral?_quote right [] (by simp)] at first
    simpa using first.symm
  · exact congrArg quote

theorem ne_quote_of_unquoted {text : String} (unquoted : '\'' ∉ text.toList) (content : String) :
    text ≠ quote content := by
  intro same
  refine unquoted ?_
  simp [same, quote]

/-- A text inside a literal is that literal and the pieces behind it. -/
theorem scanQuoted_eq_bind (content text : List Char) :
    scanQuoted content text = (readContent? content text).bind fun literal =>
      (scan literal.2).map (.quoted literal.1 :: ·) := by
  fun_induction readContent? content text with
  | case1 => rfl
  | case2 => simp [scanQuoted, scan]
  | case3 content rest ih => simpa [scanQuoted] using ih
  | case4 content next rest different => simp [scanQuoted, different]
  | case5 content c rest inside ih => cases rest <;> simpa [scanQuoted, inside] using ih

private theorem scanQuoted_escapeChars (content text rest : List Char)
    (apart : rest.head? ≠ some '\'') :
    scanQuoted content (escapeChars text ++ '\'' :: rest) =
      (scan rest).map (.quoted (String.ofList (content.reverse ++ text)) :: ·) := by
  rw [scanQuoted_eq_bind, readContent?_escapeChars content text rest apart]
  rfl

/-! ## Writing -/

def spell : List Piece → List Char
  | [] => []
  | .plain c :: rest => c :: spell rest
  | .quoted content :: rest => '\'' :: (escapeChars content.toList ++ '\'' :: spell rest)

def plainPieces (text : String) : List Piece :=
  text.toList.map .plain

def StartsPlain (pieces : List Piece) : Prop :=
  ∀ content, pieces.head? ≠ some (.quoted content)

/-- No quote stands outside a literal, and no two literals touch. -/
inductive WellSpaced : List Piece → Prop where
  | nil : WellSpaced []
  | plain {c : Char} {rest : List Piece} :
      c ≠ '\'' → WellSpaced rest → WellSpaced (.plain c :: rest)
  | quoted {content : String} {rest : List Piece} :
      StartsPlain rest → WellSpaced rest → WellSpaced (.quoted content :: rest)

theorem spell_append (left right : List Piece) :
    spell (left ++ right) = spell left ++ spell right := by
  induction left with
  | nil => rfl
  | cons piece rest ih => cases piece <;> simp [spell, ih]

theorem spell_plainPieces (text : String) : spell (plainPieces text) = text.toList := by
  unfold plainPieces
  induction text.toList with
  | nil => rfl
  | cons c rest ih => simp [spell, ih]

/-- Pieces that start plain do not start with a quote in their text. -/
theorem WellSpaced.head?_spell {pieces : List Piece} (spaced : WellSpaced pieces)
    (starts : StartsPlain pieces) : (spell pieces).head? ≠ some '\'' := by
  cases spaced with
  | nil => simp [spell]
  | plain different _ => simpa [spell] using different
  | @quoted content => exact absurd rfl (starts content)

theorem WellSpaced.append {left right : List Piece} (first : WellSpaced left)
    (second : WellSpaced right) (starts : StartsPlain right) : WellSpaced (left ++ right) := by
  induction first with
  | nil => exact second
  | plain different _ ih => exact .plain different ih
  | @quoted content rest apart _ ih =>
    refine .quoted ?_ ih
    cases rest with
    | nil => exact starts
    | cons piece rest => exact apart

theorem WellSpaced.plain_append {text : String} {pieces : List Piece}
    (unquoted : '\'' ∉ text.toList) (spaced : WellSpaced pieces) :
    WellSpaced (plainPieces text ++ pieces) := by
  unfold plainPieces
  generalize text.toList = chars at unquoted
  induction chars with
  | nil => exact spaced
  | cons c rest ih =>
    simp only [List.mem_cons, not_or] at unquoted
    exact .plain (Ne.symm unquoted.1) (ih unquoted.2)

/-- Reading undoes writing. -/
theorem scan_spell {pieces : List Piece} (spaced : WellSpaced pieces) :
    scan (spell pieces) = some pieces := by
  induction spaced with
  | nil => rfl
  | plain different _ ih => simp [spell, scan, different, ih]
  | quoted apart spaced ih =>
    have start := spaced.head?_spell apart
    simp [spell, scan, scanQuoted_escapeChars [] _ _ start, ih]

/-! ## Written texts -/

/-- A text is written from pieces that are read back. -/
structure Written (text : String) (pieces : List Piece) : Prop where
  spelled : text.toList = spell pieces
  spaced : WellSpaced pieces

namespace Written

variable {left right : String} {lefts rights : List Piece}

theorem scan_eq (written : Written left lefts) : scan left.toList = some lefts := by
  rw [written.spelled, scan_spell written.spaced]

theorem empty : Written "" [] :=
  ⟨rfl, .nil⟩

/-- Text without quotes can be set before any text. -/
theorem plain_append {text : String} (unquoted : '\'' ∉ text.toList)
    (written : Written right rights) : Written (text ++ right) (plainPieces text ++ rights) := by
  constructor
  · rw [String.toList_append, written.spelled, spell_append, spell_plainPieces]
  · exact written.spaced.plain_append unquoted

theorem plain {text : String} (unquoted : '\'' ∉ text.toList) :
    Written text (plainPieces text) := by
  simpa using plain_append unquoted empty

/-- Texts can be set one after the other unless two literals come to touch. -/
theorem append (first : Written left lefts) (second : Written right rights)
    (starts : StartsPlain rights) : Written (left ++ right) (lefts ++ rights) := by
  constructor
  · rw [String.toList_append, first.spelled, second.spelled, spell_append]
  · exact first.spaced.append second.spaced starts

theorem append_plain {text : String} (written : Written left lefts)
    (unquoted : '\'' ∉ text.toList) : Written (left ++ text) (lefts ++ plainPieces text) := by
  refine written.append (plain unquoted) ?_
  intro content
  unfold plainPieces
  cases text.toList <;> simp

theorem quote (content : String) : Written (quote content) [.quoted content] := by
  constructor
  · simp [Sql.quote, escape, spell]
  · exact .quoted (by simp [StartsPlain]) .nil

end Written

end UniversalQuery.Sql
