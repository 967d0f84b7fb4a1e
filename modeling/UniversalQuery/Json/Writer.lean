import UniversalQuery.Decimal.Layout
import UniversalQuery.Json.Basic

set_option autoImplicit false

/-! Writing JSON values: compact, without blanks, and on indented lines. -/

namespace UniversalQuery.Json

/-- Floating-point numbers have their shortest digits. They are positional, with at least one digit
after the point, from 10 ^ -5 to below 10 ^ 16, and scientific elsewhere. -/
def floatLayout : Decimal.Layout where
  tie := .even
  positional exponent := -5 ≤ exponent && exponent ≤ 15
  wholeMark := ".0"
  nan := "null"
  infinity := "null"
  negativeInfinity := "null"

def hexDigit (value : Nat) : Char :=
  if value < 10 then Char.ofNat ('0'.toNat + value) else Char.ofNat ('a'.toNat + (value - 10))

/-- A character inside a string. Quotes, backslashes and control characters are escaped. -/
def escapedChar (c : Char) : List Char :=
  if c = '"' then ['\\', '"']
  else if c = '\\' then ['\\', '\\']
  else if c = '\x08' then ['\\', 'b']
  else if c = '\x0c' then ['\\', 'f']
  else if c = '\n' then ['\\', 'n']
  else if c = '\r' then ['\\', 'r']
  else if c = '\t' then ['\\', 't']
  else if c < ' ' then
    ['\\', 'u', '0', '0', hexDigit (c.toNat / 16), hexDigit (c.toNat % 16)]
  else [c]

def quotedChars (text : String) : List Char :=
  '"' :: (text.toList.flatMap escapedChar ++ ['"'])

def scalarChars : Json → List Char
  | .null => "null".toList
  | .bool truth => (if truth then "true" else "false").toList
  | .int number => (Decimal.intText number).toList
  | .float number => (floatLayout.text number).toList
  | .string text => quotedChars text
  | .array _ => []
  | .object _ => []

/-! ## Compact text -/

mutual

def compactChars : Json → List Char
  | .array items => '[' :: (compactItems items ++ [']'])
  | .object members => '{' :: (compactMembers members ++ ['}'])
  | scalar => scalarChars scalar

def compactItems : List Json → List Char
  | [] => []
  | [item] => compactChars item
  | item :: rest => compactChars item ++ ',' :: compactItems rest

def compactMembers : List (String × Json) → List Char
  | [] => []
  | [(name, value)] => quotedChars name ++ ':' :: compactChars value
  | (name, value) :: rest =>
    quotedChars name ++ ':' :: (compactChars value ++ ',' :: compactMembers rest)

end

def compact (json : Json) : String :=
  String.ofList (compactChars json)

/-! ## Indented text -/

/-- A line break and the blanks of a level, two for each. -/
def newLine (level : Nat) : List Char :=
  '\n' :: List.replicate (2 * level) ' '

mutual

/-- The text of a value whose first line is already indented to a level. Empty lists and objects
stay on it. -/
def prettyChars (level : Nat) : Json → List Char
  | .array [] => ['[', ']']
  | .array items => '[' :: (prettyItems (level + 1) items ++ newLine level ++ [']'])
  | .object [] => ['{', '}']
  | .object members => '{' :: (prettyMembers (level + 1) members ++ newLine level ++ ['}'])
  | scalar => scalarChars scalar

def prettyItems (level : Nat) : List Json → List Char
  | [] => []
  | [item] => newLine level ++ prettyChars level item
  | item :: rest => newLine level ++ prettyChars level item ++ ',' :: prettyItems level rest

def prettyMembers (level : Nat) : List (String × Json) → List Char
  | [] => []
  | [(name, value)] => newLine level ++ quotedChars name ++ ':' :: ' ' :: prettyChars level value
  | (name, value) :: rest =>
    newLine level ++ quotedChars name ++ ':' :: ' ' :: (prettyChars level value ++
      ',' :: prettyMembers level rest)

end

def pretty (json : Json) : String :=
  String.ofList (prettyChars 0 json)

end UniversalQuery.Json
