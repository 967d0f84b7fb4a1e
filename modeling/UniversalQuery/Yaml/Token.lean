import UniversalQuery.Yaml.Scalar

set_option autoImplicit false

/-! Tokens of a YAML text. Indentation becomes tokens that open and close blocks. That a scalar is
the key of a mapping shows only at the colon after it, so the token for the key is put in later, at
the place that was remembered. -/

namespace UniversalQuery.Yaml

/-- A token. Blocks have their own marks, apart from those of lists and mappings in brackets. -/
inductive Token where
  | directive
  | documentStart
  | documentEnd
  | blockSequenceStart
  | blockMappingStart
  | blockEnd
  | flowSequenceStart
  | flowSequenceEnd
  | flowMappingStart
  | flowMappingEnd
  | blockEntry
  | flowEntry
  | key
  | value
  | alias (name : String)
  | anchor (name : String)
  | tag
  | scalar (text : String) (plain : Bool)
deriving DecidableEq, Repr

/-- A place where the key of a mapping may have begun. -/
structure KeyMark where
  /-- Whether nothing but a key may stand there. -/
  required : Bool
  /-- The number of tokens before it. -/
  position : Nat
  line : Nat
  column : Nat
  offset : Nat
deriving Repr

/-- The part of a text that is read, and what is known about the place after it. -/
structure Reading where
  cursor : Cursor
  /-- The tokens, backwards. -/
  tokens : List Token
  depth : Nat
  /-- The column of the innermost block, -1 outside all blocks, and those of the blocks around
  it. -/
  indent : Int
  outer : List Int
  /-- Whether a key may begin here. -/
  keyAllowed : Bool
  /-- The place of the last possible key, outside brackets and in each of them, the innermost
  first. -/
  keys : List (Option KeyMark)
deriving Repr

namespace Reading

def start (text : List Char) : Reading :=
  ⟨.start text, [], 0, -1, [], true, [none]⟩

def inFlow (reading : Reading) : Bool :=
  0 < reading.depth

def emit (reading : Reading) (token : Token) : Reading :=
  { reading with tokens := token :: reading.tokens }

def emitAt (reading : Reading) (position : Nat) (token : Token) : Reading :=
  { reading with
    tokens := reading.tokens.insertIdx (reading.tokens.length - position) token }

def moveTo (reading : Reading) (cursor : Cursor) : Reading :=
  { reading with cursor }

/-- Says whether a key may begin at the next place. -/
def allowKey (reading : Reading) (keyAllowed : Bool) : Reading :=
  { reading with keyAllowed }

/-! ## Blocks -/

/-- Opens a block at a column that is indented more than the current block. Nothing is opened in
brackets. -/
def openBlock (reading : Reading) (column position : Nat) (token : Token) : Reading :=
  if !reading.inFlow ∧ reading.indent < column then
    { reading.emitAt position token with
      indent := column, outer := reading.indent :: reading.outer }
  else reading

def closeBlocksTo (column : Int) : List Int → Reading → Reading
  | [], reading => reading
  | indent :: outer, reading =>
    if column < reading.indent then
      closeBlocksTo column outer { reading.emit .blockEnd with indent, outer }
    else reading

/-- Closes the blocks whose column is beyond the given one. Nothing is closed in brackets. -/
def closeBlocks (reading : Reading) (column : Int) : Reading :=
  if reading.inFlow then reading else closeBlocksTo column reading.outer reading

/-! ## Possible keys -/

/-- Whether a key may still be the one that began at a mark: it is one line, and not too long. -/
def reaches (reading : Reading) (mark : KeyMark) : Bool :=
  mark.line == reading.cursor.line && reading.cursor.offset ≤ mark.offset + 1024

/-- Forgets the possible key. A key that was required is missed. -/
def dropKey (reading : Reading) : Option Reading :=
  match reading.keys with
  | some mark :: keys =>
    if mark.required then none else some { reading with keys := none :: keys }
  | _ => some reading

/-- Remembers that a key may begin here. -/
def markKey (reading : Reading) : Option Reading :=
  if reading.keyAllowed then do
    let required := !reading.inFlow && reading.indent == reading.cursor.column
    let mark : KeyMark :=
      ⟨required, reading.tokens.length, reading.cursor.line, reading.cursor.column,
        reading.cursor.offset⟩
    let reading ← reading.dropKey
    some { reading with keys := some mark :: reading.keys.tail }
  else some reading

def enterFlow (reading : Reading) : Reading :=
  { reading with depth := reading.depth + 1, keys := none :: reading.keys }

def leaveFlow (reading : Reading) : Reading :=
  if reading.inFlow then
    { reading with depth := reading.depth - 1, keys := reading.keys.tail }
  else reading

/-! ## Blanks and comments -/

/-- Goes on to the next token. Outside brackets no tab may stand where a key may begin. -/
def skipToToken : Nat → Reading → Reading
  | 0, reading => reading
  | budget + 1, reading =>
    let tabs := reading.inFlow || !reading.keyAllowed
    let cursor := reading.cursor.skipWhile fun c => c == ' ' || (tabs && c == '\t')
    let cursor := if cursor.isAt '#' then cursor.skipWhile (!isBreak ·) else cursor
    match cursor.rest with
    | [] => reading.moveTo cursor
    | c :: _ =>
      if isBreak c then
        skipToToken budget
          ((reading.moveTo cursor.nextLine).allowKey (reading.keyAllowed || !reading.inFlow))
      else reading.moveTo cursor

/-! ## Tokens -/

def readDocumentMark (reading : Reading) (token : Token) : Option Reading := do
  let reading ← (reading.closeBlocks (-1)).dropKey
  some (((reading.allowKey false).moveTo (reading.cursor.advanceBy 3)).emit token)

def readDirective (reading : Reading) : Option Reading := do
  let reading ← (reading.closeBlocks (-1)).dropKey
  some (((reading.allowKey false).moveTo
    (reading.cursor.skipWhile (!isBreak ·))).emit .directive)

def readFlowStart (reading : Reading) (token : Token) : Option Reading := do
  let reading ← reading.markKey
  let reading := reading.enterFlow
  some (((reading.allowKey true).moveTo reading.cursor.advance).emit token)

def readFlowEnd (reading : Reading) (token : Token) : Option Reading := do
  let reading ← reading.dropKey
  let reading := reading.leaveFlow
  some (((reading.allowKey false).moveTo reading.cursor.advance).emit token)

def readFlowEntry (reading : Reading) : Option Reading := do
  let reading ← reading.dropKey
  some (((reading.allowKey true).moveTo reading.cursor.advance).emit .flowEntry)

/-- Opens a block at the current place, where a key has to be allowed. -/
def openBlockHere (reading : Reading) (token : Token) : Option Reading :=
  if reading.inFlow then some reading
  else if reading.keyAllowed then
    some (reading.openBlock reading.cursor.column reading.tokens.length token)
  else none

def readBlockEntry (reading : Reading) : Option Reading := do
  let reading ← reading.openBlockHere .blockSequenceStart
  let reading ← reading.dropKey
  some (((reading.allowKey true).moveTo reading.cursor.advance).emit .blockEntry)

def readKey (reading : Reading) : Option Reading := do
  let reading ← reading.openBlockHere .blockMappingStart
  let reading ← reading.dropKey
  some (((reading.allowKey !reading.inFlow).moveTo reading.cursor.advance).emit .key)

/-- Reads the colon before a value. If what stands before it on the line may be a key, it is. -/
def readValue (reading : Reading) : Option Reading := do
  let advance (reading : Reading) := (reading.moveTo reading.cursor.advance).emit .value
  match reading.keys with
  | some mark :: keys =>
    if reading.reaches mark then
      let reading := reading.emitAt mark.position .key
      let reading := reading.openBlock mark.column mark.position .blockMappingStart
      some (advance ({ reading with keys := none :: keys }.allowKey false))
    else if mark.required then none
    else
      let reading ← { reading with keys := none :: keys }.openBlockHere .blockMappingStart
      some (advance (reading.allowKey !reading.inFlow))
  | _ =>
    let reading ← reading.openBlockHere .blockMappingStart
    some (advance (reading.allowKey !reading.inFlow))

def isNameChar (c : Char) : Bool :=
  ('0' ≤ c && c ≤ '9') || ('A' ≤ c && c ≤ 'Z') || ('a' ≤ c && c ≤ 'z') || c == '_' || c == '-'

def readName (reading : Reading) (token : String → Token) : Option Reading := do
  let reading ← reading.markKey
  let cursor := reading.cursor.advance
  let name := cursor.rest.takeWhile isNameChar
  let cursor := cursor.advanceBy name.length
  let ends := wordEnds cursor.rest ||
    ['?', ':', ',', ']', '}', '%', '@', '\x60'].any (cursor.rest.head? == some ·)
  if name = [] ∨ !ends then none
  else some (((reading.allowKey false).moveTo cursor).emit (token (String.ofList name)))

/-- Reads a tag. Tags say nothing here. -/
def readTag (reading : Reading) : Option Reading := do
  let reading ← reading.markKey
  let ends (c : Char) : Bool := isBlank c || isBreak c || (reading.inFlow && c == ',')
  some (((reading.allowKey false).moveTo (reading.cursor.skipWhile (!ends ·))).emit .tag)

def readBlockScalar (reading : Reading) (folds : Bool) : Option Reading := do
  let reading ← reading.dropKey
  let (text, cursor) ← readBlock folds reading.indent reading.cursor.advance
  some (((reading.allowKey true).moveTo cursor).emit (.scalar text false))

def readQuotedScalar (reading : Reading) (quote : Char) : Option Reading := do
  let reading ← reading.markKey
  let (text, cursor) ← readQuoted quote reading.cursor.advance
  some (((reading.allowKey false).moveTo cursor).emit (.scalar text false))

/-- Reads a plain scalar. After a line break a key may begin. -/
def readPlainScalar (reading : Reading) : Option Reading := do
  let reading ← reading.markKey
  let (text, broken, cursor) ←
    readPlain reading.inFlow (reading.indent + 1).toNat reading.cursor
  some (((reading.allowKey broken).moveTo cursor).emit (.scalar text true))

def reservedMarks : List Char :=
  ['-', '?', ':', ',', '[', ']', '{', '}', '#', '&', '*', '!', '|', '>', '\'', '"', '%', '@',
   '\x60']

/-- Whether a plain scalar begins with a character and the rest after it. -/
def startsPlain (flow : Bool) (c : Char) (rest : List Char) : Bool :=
  !(isBlank c || isBreak c || c ∈ reservedMarks) ||
    (c == '-' && !(rest.head?.any isBlank)) ||
    (!flow && (c == '?' || c == ':') && !wordEnds rest)

def readToken (reading : Reading) (c : Char) (rest : List Char) : Option Reading :=
  let flow := reading.inFlow
  if reading.cursor.column = 0 ∧ c = '%' then reading.readDirective
  else if reading.cursor.isAtMark '-' then reading.readDocumentMark .documentStart
  else if reading.cursor.isAtMark '.' then reading.readDocumentMark .documentEnd
  else if c = '[' then reading.readFlowStart .flowSequenceStart
  else if c = '{' then reading.readFlowStart .flowMappingStart
  else if c = ']' then reading.readFlowEnd .flowSequenceEnd
  else if c = '}' then reading.readFlowEnd .flowMappingEnd
  else if c = ',' then reading.readFlowEntry
  else if c = '-' ∧ wordEnds rest then reading.readBlockEntry
  else if c = '?' ∧ (flow ∨ wordEnds rest) then reading.readKey
  else if c = ':' ∧ (flow ∨ wordEnds rest) then reading.readValue
  else if c = '*' then reading.readName .alias
  else if c = '&' then reading.readName .anchor
  else if c = '!' then reading.readTag
  else if c = '|' ∧ !flow then reading.readBlockScalar false
  else if c = '>' ∧ !flow then reading.readBlockScalar true
  else if c = '\'' ∨ c = '"' then reading.readQuotedScalar c
  else if startsPlain flow c rest then reading.readPlainScalar
  else none

/-- Reads all tokens. Every token takes at least one character. -/
def readTokens : Nat → Reading → Option Reading
  | 0, _ => none
  | budget + 1, reading =>
    let reading := reading.skipToToken (reading.cursor.rest.length + 1)
    let reading := reading.closeBlocks reading.cursor.column
    match reading.cursor.rest with
    | [] => (reading.closeBlocks (-1)).dropKey
    | c :: rest => reading.readToken c rest >>= readTokens budget

end Reading

/-- The tokens of a text. A byte order mark may stand in front of it. -/
def Token.ofText? (text : String) : Option (List Token) := do
  let chars := match text.toList with
    | '\uFEFF' :: rest => rest
    | chars => chars
  if chars.all isAllowed then
    let reading ← (Reading.start chars).readTokens (chars.length + 1)
    some reading.tokens.reverse
  else none

end UniversalQuery.Yaml
