import UniversalQuery.Yaml.Cursor
import UniversalQuery.Yaml.Resolution

set_option autoImplicit false

/-! Writing YAML in block style. A scalar is plain where that is possible, quoted where it would
not be read back as the same text, and a block of lines where it has several. -/

namespace UniversalQuery.Yaml

/-! ## Scalars -/

def isPrintable (c : Char) : Bool :=
  c == '\n' || (' ' ≤ c && c ≤ '~') ||
    ('\u00A0' ≤ c && c ≤ '\uFFFD' && c != '\uFEFF') || 0x10000 ≤ c.toNat

/-- Every character of a text with the one before it and the one after it. -/
def neighbours (before : Option Char) : List Char → List (Option Char × Char × Option Char)
  | [] => []
  | c :: rest => (before, c, rest.head?) :: neighbours (some c) rest

/-- Whether a character that may be missing ends a word. -/
def endsWord : Option Char → Bool
  | none => true
  | some c => isBlank c || isBreak c || c == '\x00'

def openingMarks : List Char :=
  ['#', ',', '[', ']', '{', '}', '&', '*', '!', '|', '>', '\'', '"', '%', '@', '\x60']

/-- Whether a character between its neighbours is a mark of the format. -/
def isMark : Option Char × Char × Option Char → Bool
  | (none, c, after) =>
    openingMarks.contains c || (['?', ':', '-'].contains c && endsWord after)
  | (some before, c, after) =>
    (c == ':' && endsWord after) || (c == '#' && endsWord (some before))

/-- The styles of scalars. -/
inductive ScalarStyle where
  | plain
  | single
  | double
  | literal
deriving DecidableEq, Repr

/-- What decides the style of a scalar. -/
structure ScalarTraits where
  hasMark : Bool
  hasBreak : Bool
  hasUnprintable : Bool
  /-- Whether a blank or a line break stands at one of the two ends. -/
  looseEnds : Bool
  trailingSpace : Bool
  spaceAfterBreak : Bool
  spaceBeforeBreak : Bool

def ScalarTraits.of (text : List Char) : ScalarTraits :=
  let around := neighbours none text
  let isLoose (c : Option Char) : Bool := c.any fun c => c == ' ' || isBreak c
  { hasMark :=
      text.take 3 == ['-', '-', '-'] || text.take 3 == ['.', '.', '.'] || around.any isMark
    hasBreak := text.any isBreak
    hasUnprintable := !text.all isPrintable
    looseEnds := isLoose text.head? || isLoose text.getLast?
    trailingSpace := text.getLast? == some ' '
    spaceAfterBreak := around.any fun (before, c, _) => before.any isBreak && c == ' '
    spaceBeforeBreak := around.any fun (before, c, _) => before == some ' ' && isBreak c }

def lineStyle (text : String) (traits : ScalarTraits) : ScalarStyle :=
  let unquoted := !(traits.spaceBeforeBreak || traits.hasUnprintable || traits.spaceAfterBreak)
  if !unquoted then .double
  else if isReserved text || traits.looseEnds || traits.hasBreak || traits.hasMark then .single
  else .plain

/-- The style of a scalar. One that has several lines is a block if no blanks at their ends would
be lost. -/
def scalarStyle (text : String) : ScalarStyle :=
  let traits := ScalarTraits.of text.toList
  if text.toList.contains '\n' then
    if traits.trailingSpace || traits.spaceBeforeBreak || traits.hasUnprintable then .double
    else .literal
  else lineStyle text traits

def blanks (indent : Nat) : List Char :=
  List.replicate indent ' '

/-- A scalar in single quotes, which are doubled inside. A line break is written as it is, with
indentation after it. -/
def singleQuoted (indent : Nat) (text : List Char) : List Char :=
  '\'' :: (go false text ++ ['\''])
where
  go (broken : Bool) : List Char → List Char
    | [] => if broken then blanks indent else []
    | c :: rest =>
      if isBreak c then c :: go true rest
      else (if broken then blanks indent else []) ++
        (if c = '\'' then ['\'', '\''] else [c]) ++ go false rest

def escapeLetters : List (Char × Char) :=
  [('\x00', '0'), ('\x07', 'a'), ('\x08', 'b'), ('\t', 't'), ('\n', 'n'), ('\x0b', 'v'),
   ('\x0c', 'f'), ('\r', 'r'), ('\x1b', 'e'), ('"', '"'), ('\\', '\\'), ('\u0085', 'N'),
   ('\u00A0', '_'), ('\u2028', 'L'), ('\u2029', 'P')]

/-- The digits of a code in base sixteen, in capitals. -/
def codeDigits (width code : Nat) : List Char :=
  List.leftpad width '0' ((Nat.toDigits 16 code).map Char.toUpper)

def doubleQuotedChar (c : Char) : List Char :=
  if isPrintable c && !isBreak c && c != '"' && c != '\\' then [c]
  else match escapeLetters.lookup c with
    | some letter => ['\\', letter]
    | none =>
      if c.toNat ≤ 0xFF then '\\' :: 'x' :: codeDigits 2 c.toNat
      else '\\' :: 'u' :: codeDigits 4 c.toNat

def doubleQuoted (text : List Char) : List Char :=
  '"' :: (text.flatMap doubleQuotedChar ++ ['"'])

def literalLines (indent : Nat) (atStart : Bool) : List Char → List Char
  | [] => []
  | c :: rest =>
    if isBreak c then c :: literalLines indent true rest
    else (if atStart then blanks indent else []) ++ c :: literalLines indent false rest

/-- The header of a block scalar. It gives the indentation if the text begins with a blank or a
line break, and says how many line breaks the text ends with: none, one or more. -/
def literalHeader (text : List Char) : List Char :=
  let hint := if text.head?.any fun c => c == ' ' || isBreak c then ['2'] else []
  let chomping := match text.reverse with
    | [] => ['-']
    | last :: before =>
      if !isBreak last then ['-'] else if before.head?.all isBreak then ['+'] else []
  '|' :: (hint ++ chomping)

def scalarText (indent : Nat) (text : String) : List Char :=
  let chars := text.toList
  match scalarStyle text with
  | .plain => chars
  | .single => singleQuoted indent chars
  | .double => doubleQuoted chars
  | .literal => literalHeader chars ++ '\n' :: literalLines indent true chars

/-! ## Blocks -/

/-- A tree that is written in block style. -/
inductive Block where
  | text (text : String)
  | list (items : List Block)
  | record (members : List (String × Block))
deriving Inhabited

/-- Ends the current line, if it is not ended already. -/
def endLine (text : List Char) : List Char :=
  if text.getLast?.any isBreak then text else text ++ ['\n']

/-- A key with its mark. One that is long or has several lines is written on its own. -/
def keyText (indent : Nat) (key : String) : List Char :=
  let chars := key.toList
  if key.utf8ByteSize ≤ 128 ∧ !chars.any isBreak then scalarText (indent + 2) key ++ [':']
  else '?' :: ' ' :: (endLine (scalarText (indent + 2) key) ++ blanks indent ++ [':'])

mutual

/-- A value after the mark of its key, at the indentation of the key. -/
def valueText (indent : Nat) : Block → List Char
  | .text text => ' ' :: endLine (scalarText (indent + 2) text)
  | .list [] => [' ', '[', ']', '\n']
  | .list items => '\n' :: (blanks indent ++ itemsText indent items)
  | .record [] => [' ', '{', '}', '\n']
  | .record members => '\n' :: (blanks (indent + 2) ++ membersText (indent + 2) members)

/-- An item after its dash, at the indentation of the dash. -/
def itemText (indent : Nat) : Block → List Char
  | .text text => ' ' :: endLine (scalarText (indent + 2) text)
  | .list [] => [' ', '[', ']', '\n']
  | .list items => ' ' :: itemsText (indent + 2) items
  | .record [] => [' ', '{', '}', '\n']
  | .record members => ' ' :: membersText (indent + 2) members

/-- Items at an indentation, the first of which is already indented. -/
def itemsText (indent : Nat) : List Block → List Char
  | [] => []
  | [item] => '-' :: itemText indent item
  | item :: rest => '-' :: (itemText indent item ++ blanks indent ++ itemsText indent rest)

/-- Members at an indentation, the first of which is already indented. -/
def membersText (indent : Nat) : List (String × Block) → List Char
  | [] => []
  | [(key, value)] => keyText indent key ++ valueText indent value
  | (key, value) :: rest =>
    keyText indent key ++ valueText indent value ++ blanks indent ++ membersText indent rest

end

def recordText (members : List (String × Block)) : String :=
  String.ofList (membersText 0 members)

end UniversalQuery.Yaml
