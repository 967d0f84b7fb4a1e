import UniversalQuery.Json.Source

set_option autoImplicit false

/-! Reading JSON texts, in the strict grammar of RFC 8259. Every reader takes what it reads off the
front of the text and hands back the rest. -/

namespace UniversalQuery.Json

open Decimal (Numeral isDigit)

/-! ## Blanks, literals and numerals -/

def isBlank (c : Char) : Bool :=
  c == ' ' || c == '\t' || c == '\n' || c == '\r'

def skipBlanks (text : List Char) : List Char :=
  text.dropWhile isBlank

def readWord : List Char → List Char → Option (List Char)
  | [], text => some text
  | c :: word, head :: text => if c = head then readWord word text else none
  | _ :: _, [] => none

def readDigits (text : List Char) : Option (List Char × List Char) :=
  match text.takeWhile isDigit with
  | [] => none
  | digits => some (digits, text.dropWhile isDigit)

/-- Takes the digits before the point off the front. A leading zero stands alone. -/
def readWhole : List Char → Option (List Char × List Char)
  | '0' :: text => some (['0'], text)
  | text => readDigits text

/-- Takes the digits after a point off the front, if there is a point. -/
def readFraction : List Char → Option (List Char × List Char)
  | '.' :: text => readDigits text
  | text => some ([], text)

/-- Takes the power of ten off the front, if there is one. -/
def readExponent : List Char → Option (Option Int × List Char)
  | c :: text =>
    if c = 'e' ∨ c = 'E' then
      let (negative, text) := match text with
        | '-' :: text => (true, text)
        | '+' :: text => (false, text)
        | text => (false, text)
      (readDigits text).map fun (digits, rest) =>
        let size : Int := Decimal.ofDigits digits
        (some (if negative then -size else size), rest)
    else some (none, c :: text)
  | [] => some (none, [])

def readNumeral (text : List Char) : Option (Numeral × List Char) := do
  let (negative, text) := match text with
    | '-' :: text => (true, text)
    | text => (false, text)
  let (whole, text) ← readWhole text
  let (fraction, text) ← readFraction text
  let (exponent, text) ← readExponent text
  some (⟨negative, whole, fraction, exponent⟩, text)

/-! ## Strings -/

def hexValue? (c : Char) : Option Nat :=
  if '0' ≤ c ∧ c ≤ '9' then some (c.toNat - '0'.toNat)
  else if 'a' ≤ c ∧ c ≤ 'f' then some (c.toNat - 'a'.toNat + 10)
  else if 'A' ≤ c ∧ c ≤ 'F' then some (c.toNat - 'A'.toNat + 10)
  else none

def hexBits? (a b c d : Char) : Option Nat := do
  let a ← hexValue? a
  let b ← hexValue? b
  let c ← hexValue? c
  let d ← hexValue? d
  some (((a * 16 + b) * 16 + c) * 16 + d)

def escaped? (c : Char) : Option Char :=
  if c = '"' ∨ c = '\\' ∨ c = '/' then some c
  else if c = 'b' then some '\x08'
  else if c = 'f' then some '\x0c'
  else if c = 'n' then some '\n'
  else if c = 'r' then some '\r'
  else if c = 't' then some '\t'
  else none

/-- Takes the rest of a string and its closing quote off the front. Control characters have to be
escaped. -/
def readString : List Char → Option (List StringUnit × List Char)
  | [] => none
  | '"' :: text => some ([], text)
  | '\\' :: 'u' :: a :: b :: c :: d :: text => do
    let bits ← hexBits? a b c d
    let (units, rest) ← readString text
    some (.code bits :: units, rest)
  | '\\' :: c :: text => do
    let c ← escaped? c
    let (units, rest) ← readString text
    some (.char c :: units, rest)
  | c :: text =>
    if c = '\\' ∨ c < ' ' then none
    else do
      let (units, rest) ← readString text
      some (.char c :: units, rest)

/-! ## Values -/

mutual

/-- Takes a value off the front, blanks before it included. Every call of a reader uses up one unit
of the first argument. -/
def readValue : Nat → List Char → Option (Source × List Char)
  | 0, _ => none
  | budget + 1, text =>
    match skipBlanks text with
    | [] => none
    | '{' :: text =>
      match skipBlanks text with
      | '}' :: text => some (.object [], text)
      | text => (readMembers budget text).map fun (members, rest) => (.object members, rest)
    | '[' :: text =>
      match skipBlanks text with
      | ']' :: text => some (.array [], text)
      | text => (readItems budget text).map fun (items, rest) => (.array items, rest)
    | '"' :: text => (readString text).map fun (units, rest) => (.string units, rest)
    | 'n' :: text => (readWord ['u', 'l', 'l'] text).map (.null, ·)
    | 't' :: text => (readWord ['r', 'u', 'e'] text).map (.bool true, ·)
    | 'f' :: text => (readWord ['a', 'l', 's', 'e'] text).map (.bool false, ·)
    | text => (readNumeral text).map fun (numeral, rest) => (.number numeral, rest)

/-- Takes the items of a list and the closing bracket off the front. -/
def readItems : Nat → List Char → Option (List Source × List Char)
  | 0, _ => none
  | budget + 1, text => do
    let (item, text) ← readValue budget text
    match skipBlanks text with
    | ',' :: text =>
      let (items, rest) ← readItems budget text
      some (item :: items, rest)
    | ']' :: text => some ([item], text)
    | _ => none

/-- Takes the members of an object and the closing brace off the front. -/
def readMembers : Nat → List Char → Option (List (List StringUnit × Source) × List Char)
  | 0, _ => none
  | budget + 1, text =>
    match skipBlanks text with
    | '"' :: text => do
      let (name, text) ← readString text
      match skipBlanks text with
      | ':' :: text =>
        let (value, text) ← readValue budget text
        match skipBlanks text with
        | ',' :: text =>
          let (members, rest) ← readMembers budget text
          some ((name, value) :: members, rest)
        | '}' :: text => some ([(name, value)], text)
        | _ => none
      | _ => none
    | _ => none

end

/-- The source of a text that is one JSON value. A value of so many characters takes at most twice
as many calls. -/
def Source.ofChars? (text : List Char) : Option Source :=
  match readValue (2 * text.length + 1) text with
  | some (source, rest) => if skipBlanks rest = [] then some source else none
  | none => none

def levelLimit : Nat := 127

/-- Reads a text in the parts that the shape looks at. Members with one name are all kept. -/
def ofText? (shape : Shape) (text : String) : Option Json := do
  let source ← Source.ofChars? text.toList
  source.toJson? shape levelLimit

/-- Reads a whole text. Of members with one name the first place and the last value are kept. -/
def read? (text : String) : Option Json :=
  (ofText? .whole text).map merged

end UniversalQuery.Json
