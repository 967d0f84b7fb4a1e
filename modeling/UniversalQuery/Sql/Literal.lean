import UniversalQuery.Json.Writer
import UniversalQuery.Schema.FieldType
import UniversalQuery.Value

set_option autoImplicit false

/-! SQL literals. The declared type of a field, and never the shape of a value, decides how the
value is written; a value that does not fit the type is null. -/

namespace UniversalQuery.Sql

def placeholder : String := "\x7bidPlaceHolder\x7d"

def nullLiteral : String := "null"

def escapeChars : List Char → List Char
  | [] => []
  | c :: rest => if c = '\'' then '\'' :: '\'' :: escapeChars rest else c :: escapeChars rest

def escape (text : String) : String :=
  String.ofList (escapeChars text.toList)

def quote (text : String) : String :=
  "'" ++ escape text ++ "'"

/-- Numbers inside texts and decimal columns are positional at any size and have no point if they
are whole. Half-way cases go up. -/
def floatLayout : Decimal.Layout where
  tie := .up
  positional _ := true
  wholeMark := ""
  nan := "NaN"
  infinity := "inf"
  negativeInfinity := "-inf"

def boolText (truth : Bool) : String :=
  if truth then "true" else "false"

/-- The text of a value inside a quoted literal. Lists and objects are compact JSON. -/
def textOf : Value → String
  | .null => nullLiteral
  | .bool truth => boolText truth
  | .int number => Decimal.intText number
  | .float number => floatLayout.text number
  | .string text => text
  | .date instant => instant.isoText
  | .array items => (Value.array items).toPlainJson.compact
  | .object fields => (Value.object fields).toPlainJson.compact

def isPlaceholder (value : Value) : Bool :=
  value.asString? == some placeholder

/-- A literal for character data: the text of a value that counts as true. -/
def textualLiteral (value : Value) : String :=
  if isPlaceholder value then placeholder
  else if value.isTruthy then quote (textOf value)
  else nullLiteral

/-- The exact digits of a whole floating-point number. A zero keeps its sign. -/
def wholeFloatText? (number : Float) : Option String :=
  match Binary64.ofFloat number with
  | .finite negative significand exponent =>
    (Binary64.wholePart? significand exponent).map fun size =>
      if negative then "-" ++ Decimal.natText size else Decimal.natText size
  | _ => none

def integerLiteral (value : Value) : String :=
  if isPlaceholder value then placeholder
  else match value with
    | .int number => Decimal.intText number
    | .float number => (wholeFloatText? number).getD nullLiteral
    | _ => nullLiteral

def decimalLiteral : Value → String
  | .int number => Decimal.intText number
  | .float number => if number.isFinite then floatLayout.text number else nullLiteral
  | _ => nullLiteral

def booleanLiteral (value : Value) : String :=
  boolText value.isTruthy

def jsonLiteral (value : Value) : String :=
  quote value.toPlainJson.compact

def dateLiteral (value : Value) : String :=
  match value.asInstant? with
  | some instant => quote instant.isoText
  | none => nullLiteral

def literal (type : FieldType) (value : Value) : String :=
  match type with
  | .string | .text | .uuid => textualLiteral value
  | .integer => integerLiteral value
  | .decimal => decimalLiteral value
  | .boolean => booleanLiteral value
  | .json => jsonLiteral value
  | .date => dateLiteral value

end UniversalQuery.Sql
