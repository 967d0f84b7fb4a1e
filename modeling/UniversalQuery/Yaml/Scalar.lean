import UniversalQuery.Yaml.Cursor

set_option autoImplicit false

/-! Reading the scalars of a YAML text: plain, quoted and block scalars. Lines of a scalar are
folded: one line break between words is read as a blank, and of several the first is dropped. -/

namespace UniversalQuery.Yaml

/-! ## Folding -/

/-- A scalar that is being read. What follows its last word is held apart until the next one. All
lists are backwards. -/
structure Folded where
  text : List Char
  /-- The blanks since the last word. -/
  blanks : List Char
  /-- The line breaks since the last word, the first one apart. It is absent if it was escaped. -/
  breaks : Option (Option Char × List Char)

namespace Folded

def empty : Folded := ⟨[], [], none⟩

/-- Adds what the blanks and line breaks since the last word are read as. -/
def settle (folded : Folded) : Folded :=
  match folded.breaks with
  | none => ⟨folded.blanks ++ folded.text, [], none⟩
  | some (some '\n', []) => ⟨' ' :: folded.text, [], none⟩
  | some (some '\n', more) => ⟨more ++ folded.text, [], none⟩
  | some (first, more) => ⟨more ++ first.toList ++ folded.text, [], none⟩

def add (folded : Folded) (c : Char) : Folded :=
  let settled := folded.settle
  { settled with text := c :: settled.text }

/-- Adds a blank. Blanks after a line break are indentation. -/
def addBlank (folded : Folded) (c : Char) : Folded :=
  if folded.breaks.isSome then folded else { folded with blanks := c :: folded.blanks }

/-- Adds a line break. Blanks before it are dropped. -/
def addBreak (folded : Folded) (c : Char) : Folded :=
  match folded.breaks with
  | none => { folded with blanks := [], breaks := some (some (breakMark c), []) }
  | some (first, more) => { folded with breaks := some (first, breakMark c :: more) }

/-- Adds a line break that is escaped, which is read as nothing. -/
def addEscapedBreak (folded : Folded) : Folded :=
  { folded.settle with breaks := some (none, []) }

end Folded

/-- Reads blanks and line breaks. Below the given column no tab may stand in the indentation. -/
def foldBlanks (indent : Nat) : Nat → Folded → Cursor → Option (Folded × Cursor)
  | 0, folded, cursor => some (folded, cursor)
  | budget + 1, folded, cursor =>
    match cursor.rest with
    | [] => some (folded, cursor)
    | c :: _ =>
      if isBlank c then
        if folded.breaks.isSome ∧ c = '\t' ∧ cursor.column < indent then none
        else foldBlanks indent budget (folded.addBlank c) cursor.advance
      else if isBreak c then foldBlanks indent budget (folded.addBreak c) cursor.nextLine
      else some (folded, cursor)

/-! ## Plain scalars -/

def flowMarks : List Char := [',', '[', ']', '{', '}']

/-- Reads one word of a plain scalar. It ends at a colon that ends a word, and inside brackets at
their marks. -/
def readPlainWord (flow : Bool) : Nat → Folded → Cursor → Option (Folded × Cursor)
  | 0, folded, cursor => some (folded, cursor)
  | budget + 1, folded, cursor =>
    match cursor.rest with
    | [] => some (folded, cursor)
    | c :: rest =>
      if wordEnds cursor.rest then some (folded, cursor)
      else if flow ∧ c = ':' ∧ ('?' :: flowMarks).any (rest.head? == some ·) then none
      else if (c = ':' ∧ wordEnds rest) ∨ (flow ∧ c ∈ flowMarks) then some (folded, cursor)
      else readPlainWord flow budget (folded.add c) cursor.advance

/-- Reads the words of a plain scalar. Outside brackets it ends before a line that is indented
less. -/
def readPlainWords (flow : Bool) (indent : Nat) :
    Nat → Folded → Cursor → Option (Folded × Cursor)
  | 0, folded, cursor => some (folded, cursor)
  | budget + 1, folded, cursor =>
    if cursor.isAtDocumentMark ∨ cursor.isAt '#' then some (folded, cursor)
    else do
      let (folded, cursor) ← readPlainWord flow cursor.rest.length folded cursor
      match cursor.rest with
      | [] => some (folded, cursor)
      | c :: _ =>
        if !isBlank c && !isBreak c then some (folded, cursor)
        else
          let (folded, cursor) ← foldBlanks indent cursor.rest.length folded cursor
          if !flow ∧ cursor.column < indent then some (folded, cursor)
          else readPlainWords flow indent budget folded cursor

/-- Reads a plain scalar. The second part says whether a line break follows it. -/
def readPlain (flow : Bool) (indent : Nat) (cursor : Cursor) :
    Option (String × Bool × Cursor) := do
  let (folded, cursor) ← readPlainWords flow indent (cursor.rest.length + 1) .empty cursor
  some (String.ofList folded.text.reverse, folded.breaks.isSome, cursor)

/-! ## Quoted scalars -/

def hexDigit? (c : Char) : Option Nat :=
  if '0' ≤ c ∧ c ≤ '9' then some (c.toNat - '0'.toNat)
  else if 'a' ≤ c ∧ c ≤ 'f' then some (c.toNat - 'a'.toNat + 10)
  else if 'A' ≤ c ∧ c ≤ 'F' then some (c.toNat - 'A'.toNat + 10)
  else none

def codedChar? (digits : List Char) : Option Char := do
  let values ← digits.mapM hexDigit?
  let code := values.foldl (fun code value => code * 16 + value) 0
  if code.isValidChar then some (Char.ofNat code) else none

def escapes : List (Char × Char) :=
  [('0', '\x00'), ('a', '\x07'), ('b', '\x08'), ('t', '\t'), ('\t', '\t'), ('n', '\n'),
   ('v', '\x0b'), ('f', '\x0c'), ('r', '\r'), ('e', '\x1b'), (' ', ' '), ('"', '"'), ('/', '/'),
   ('\\', '\\'), ('N', '\u0085'), ('_', '\u00A0'), ('L', '\u2028'), ('P', '\u2029')]

def codeLengths : List (Char × Nat) :=
  [('x', 2), ('u', 4), ('U', 8)]

def readEscape (cursor : Cursor) : Option (Char × Cursor) :=
  match cursor.rest with
  | [] => none
  | c :: rest =>
    match escapes.lookup c, codeLengths.lookup c with
    | some meant, _ => some (meant, cursor.advance)
    | none, some length =>
      if (rest.take length).length = length then
        (codedChar? (rest.take length)).map (·, cursor.advanceBy (length + 1))
      else none
    | none, none => none

/-- Reads one word of a quoted scalar, up to a blank, a line break or the closing quote. -/
def readQuotedWord (quote : Char) : Nat → Folded → Cursor → Option (Folded × Cursor)
  | 0, folded, cursor => some (folded, cursor)
  | budget + 1, folded, cursor =>
    match cursor.rest with
    | [] => some (folded, cursor)
    | c :: rest =>
      if wordEnds cursor.rest then some (folded, cursor)
      else if c = quote then
        if quote = '\'' ∧ rest.head? = some quote then
          readQuotedWord quote budget (folded.add quote) (cursor.advanceBy 2)
        else some (folded, cursor)
      else if quote = '"' ∧ c = '\\' then
        if rest.head?.any isBreak then some (folded.addEscapedBreak, cursor.advance.nextLine)
        else do
          let (meant, cursor) ← readEscape cursor.advance
          readQuotedWord quote budget (folded.add meant) cursor
      else readQuotedWord quote budget (folded.add c) cursor.advance

def readQuotedWords (quote : Char) : Nat → Folded → Cursor → Option (Folded × Cursor)
  | 0, _, _ => none
  | budget + 1, folded, cursor =>
    if cursor.isAtDocumentMark then none
    else do
      let (folded, cursor) ← readQuotedWord quote cursor.rest.length folded cursor
      if cursor.isAt quote then some (folded.settle, cursor.advance)
      else if cursor.rest = [] then none
      else
        let (folded, cursor) ← foldBlanks 0 cursor.rest.length folded cursor
        readQuotedWords quote budget folded.settle cursor

def readQuoted (quote : Char) (cursor : Cursor) : Option (String × Cursor) := do
  let (folded, cursor) ← readQuotedWords quote (cursor.rest.length + 1) .empty cursor
  some (String.ofList folded.text.reverse, cursor)

/-! ## Block scalars -/

/-- What becomes of the line breaks at the end of a block scalar. -/
inductive Chomping where
  | strip
  | clip
  | keep
deriving DecidableEq, Repr

def Chomping.ofMark? (c : Char) : Option Chomping :=
  if c = '-' then some .strip else if c = '+' then some .keep else none

/-- Reads the chomping mark of a header, if there is one. -/
def readChomping (cursor : Cursor) : Option Chomping × Cursor :=
  match cursor.rest.head?.bind Chomping.ofMark? with
  | some chomping => (some chomping, cursor.advance)
  | none => (none, cursor)

/-- Reads the indentation of a header, if there is one. It may not be zero. -/
def readIncrement (cursor : Cursor) : Option (Option Nat × Cursor) :=
  match cursor.rest with
  | c :: _ =>
    if '1' ≤ c ∧ c ≤ '9' then some (some (c.toNat - '0'.toNat), cursor.advance)
    else if c = '0' then none
    else some (none, cursor)
  | [] => some (none, cursor)

def readBlockHeader (cursor : Cursor) : Option (Chomping × Option Nat × Cursor) := do
  let (before, cursor) := readChomping cursor
  let (increment, cursor) ← readIncrement cursor
  let (after, cursor) := if before.isSome then (none, cursor) else readChomping cursor
  let cursor := cursor.skipWhile isBlank
  let cursor := if cursor.isAt '#' then cursor.skipWhile (!isBreak ·) else cursor
  match cursor.rest with
  | [] => some ((before <|> after).getD .clip, increment, cursor)
  | c :: _ =>
    if isBreak c then some ((before <|> after).getD .clip, increment, cursor.nextLine)
    else none

/-- Reads empty lines and the indentation of the line after them. The line breaks and the greatest
indentation are handed back. While the indentation is not known, all blanks belong to it; no tab
does. -/
def readIndentation (indent : Option Nat) (breaks : List Char) (greatest : Nat) :
    Nat → Cursor → Option (List Char × Nat × Cursor)
  | 0, cursor => some (breaks, greatest, cursor)
  | budget + 1, cursor =>
    let spaces := (cursor.rest.takeWhile (· == ' ')).length
    let cursor := cursor.advanceBy <| match indent with
      | none => spaces
      | some indent => min spaces (indent - cursor.column)
    let greatest := max greatest cursor.column
    let inside : Bool := match indent with
      | none => true
      | some indent => cursor.column < indent
    match cursor.rest with
    | [] => some (breaks, greatest, cursor)
    | c :: _ =>
      if inside ∧ c = '\t' then none
      else if isBreak c then
        readIndentation indent (breakMark c :: breaks) greatest budget cursor.nextLine
      else some (breaks, greatest, cursor)

/-- The part of a block scalar that is read. All lists are backwards. -/
structure BlockLines where
  text : List Char
  /-- The line break after the last line. -/
  lineBreak : List Char
  emptyLines : List Char
  /-- Whether the last line starts with a blank. -/
  startsBlank : Bool

/-- The text with the line breaks before another line. In a folded scalar a line break between two
lines that do not start with a blank is folded. -/
def BlockLines.settle (lines : BlockLines) (folds nextBlank : Bool) : List Char :=
  if folds ∧ lines.lineBreak = ['\n'] ∧ !lines.startsBlank ∧ !nextBlank then
    if lines.emptyLines = [] then ' ' :: lines.text else lines.emptyLines ++ lines.text
  else lines.emptyLines ++ lines.lineBreak ++ lines.text

/-- Reads the lines of a block scalar that have the given indentation. -/
def readBlockLines (folds : Bool) (indent : Nat) :
    Nat → BlockLines → Cursor → Option (BlockLines × Cursor)
  | 0, lines, cursor => some (lines, cursor)
  | budget + 1, lines, cursor =>
    match cursor.rest with
    | [] => some (lines, cursor)
    | c :: _ =>
      if cursor.column != indent then some (lines, cursor)
      else do
        let line := cursor.rest.takeWhile (!isBreak ·)
        let text := line.reverse ++ lines.settle folds (isBlank c)
        let cursor := cursor.advanceBy line.length
        let lineBreak := (cursor.rest.head?.map breakMark).toList
        let (breaks, _, cursor) ←
          readIndentation (some indent) [] 0 cursor.rest.length cursor.nextLine
        readBlockLines folds indent budget ⟨text, lineBreak, breaks, isBlank c⟩ cursor

/-- Reads a block scalar after its first mark. The indentation of its parent is -1 at the top. -/
def readBlock (folds : Bool) (parent : Int) (cursor : Cursor) : Option (String × Cursor) := do
  let (chomping, increment, cursor) ← readBlockHeader cursor
  let given := increment.map fun increment =>
    if 0 ≤ parent then parent.toNat + increment else increment
  let (breaks, greatest, cursor) ←
    readIndentation given [] 0 (cursor.rest.length + 1) cursor
  let indent := given.getD (max greatest (max (parent + 1).toNat 1))
  let (lines, cursor) ←
    readBlockLines folds indent (cursor.rest.length + 1) ⟨[], [], breaks, false⟩ cursor
  let text := match chomping with
    | .strip => lines.text
    | .clip => lines.lineBreak ++ lines.text
    | .keep => lines.emptyLines ++ lines.lineBreak ++ lines.text
  some (String.ofList text.reverse, cursor)

end UniversalQuery.Yaml
