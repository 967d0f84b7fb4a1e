set_option autoImplicit false

/-! Places in a YAML text. Indentation is significant, so a place knows its line and its column. -/

namespace UniversalQuery.Yaml

def isAllowed (c : Char) : Bool :=
  c == '\t' || c == '\n' || c == '\r' || (' ' ≤ c && c ≤ '~') || c == '\u0085' ||
    ('\u00A0' ≤ c && c ≤ '\uFFFD' && c != '\uFEFF') || 0x10000 ≤ c.toNat

def isBreak (c : Char) : Bool :=
  c == '\n' || c == '\r' || c == '\u0085' || c == '\u2028' || c == '\u2029'

def isBlank (c : Char) : Bool :=
  c == ' ' || c == '\t'

/-- Whether a word ends here: at a blank, at a line break or at the end of the text. -/
def wordEnds : List Char → Bool
  | [] => true
  | c :: _ => isBlank c || isBreak c

def breakMark (c : Char) : Char :=
  if c = '\u2028' ∨ c = '\u2029' then c else '\n'

/-- A place in a text, with what follows it. -/
structure Cursor where
  rest : List Char
  line : Nat
  column : Nat
  offset : Nat
deriving Repr

namespace Cursor

def start (text : List Char) : Cursor :=
  ⟨text, 0, 0, 0⟩

def advance (cursor : Cursor) : Cursor :=
  { cursor with
    rest := cursor.rest.tail, column := cursor.column + 1, offset := cursor.offset + 1 }

def advanceBy (cursor : Cursor) (count : Nat) : Cursor :=
  { cursor with
    rest := cursor.rest.drop count
    column := cursor.column + count
    offset := cursor.offset + count }

/-- The place after a line break. Carriage return and line feed together are one. -/
def nextLine (cursor : Cursor) : Cursor :=
  match cursor.rest with
  | '\r' :: '\n' :: rest => ⟨rest, cursor.line + 1, 0, cursor.offset + 2⟩
  | _ :: rest => ⟨rest, cursor.line + 1, 0, cursor.offset + 1⟩
  | [] => cursor

/-- The place after all characters of the line that have a property. -/
def skipWhile (cursor : Cursor) (property : Char → Bool) : Cursor :=
  cursor.advanceBy (cursor.rest.takeWhile property).length

def isAt (cursor : Cursor) (c : Char) : Bool :=
  cursor.rest.head? == some c

def isAtMark (cursor : Cursor) (mark : Char) : Bool :=
  cursor.column == 0 && cursor.rest.take 3 == [mark, mark, mark] && wordEnds (cursor.rest.drop 3)

def isAtDocumentMark (cursor : Cursor) : Bool :=
  cursor.isAtMark '-' || cursor.isAtMark '.'

end Cursor

end UniversalQuery.Yaml
