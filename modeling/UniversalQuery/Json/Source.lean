import UniversalQuery.Decimal.Numeral
import UniversalQuery.Json.Basic

set_option autoImplicit false

/-! JSON texts as they are written. A source keeps numerals and escapes, and gets its meaning from a
shape that says which parts are looked at: a numeral that is out of range or half of a surrogate
pair only matters where it is read. -/

namespace UniversalQuery.Json

/-- A unit of a string: a character, or the sixteen bits of a numeric escape. -/
inductive StringUnit where
  | char (c : Char)
  | code (bits : Nat)
deriving DecidableEq, Repr

/-- A JSON text without its blanks. -/
inductive Source where
  | null
  | bool (truth : Bool)
  | number (numeral : Decimal.Numeral)
  | string (units : List StringUnit)
  | array (items : List Source)
  | object (members : List (List StringUnit × Source))
deriving Inhabited

/-- Which parts of a text are read. The members of a record that are not among its fields are
skipped. -/
inductive Shape where
  | whole
  | list (item : Shape)
  | record (fields : List (String × Shape))
deriving Inhabited

namespace StringUnit

def isLeading (bits : Nat) : Bool :=
  0xD800 ≤ bits && bits < 0xDC00

def isTrailing (bits : Nat) : Bool :=
  0xDC00 ≤ bits && bits < 0xE000

def paired (leading trailing : Nat) : Char :=
  Char.ofNat (0x10000 + (leading - 0xD800) * 0x400 + (trailing - 0xDC00))

/-- The characters of a string, unless half of a surrogate pair stands alone. -/
def decode : List StringUnit → Option (List Char)
  | [] => some []
  | .char c :: rest => (decode rest).map (c :: ·)
  | .code bits :: rest =>
    if isLeading bits then
      match rest with
      | .code next :: rest =>
        if isTrailing next then (decode rest).map (paired bits next :: ·) else none
      | _ => none
    else if isTrailing bits then none
    else (decode rest).map (Char.ofNat bits :: ·)

/-- The text of a string, unless half of a surrogate pair stands alone. -/
def text? (units : List StringUnit) : Option String :=
  (decode units).map String.ofList

end StringUnit

namespace Shape

def item : Shape → Shape
  | .list shape => shape
  | _ => .whole

/-- The shape of a named member, if it is read. -/
def member? : Shape → String → Option Shape
  | .record fields, name => Entries.get? fields name
  | _, _ => some .whole

/-- The shapes of the fields of a record that is written as a list. -/
def fieldShapes : Shape → Option (List Shape)
  | .record fields => some (fields.map Prod.snd)
  | _ => none

end Shape

namespace Source

mutual

/-- The value of a source in the parts that the shape reads. Containers may be nested so many levels
deep; numbers have to be in range and strings free of broken surrogate pairs. -/
def toJson? (shape : Shape) (levels : Nat) : Source → Option Json
  | .null => some .null
  | .bool truth => some (.bool truth)
  | .number numeral => numeral.number?.map fun
    | .int value => .int value
    | .float value => .float value
  | .string units => (StringUnit.text? units).map .string
  | .array items =>
    match levels, shape.fieldShapes with
    | 0, _ => none
    | levels + 1, some shapes => (fieldsToJson? shapes levels items).map .array
    | levels + 1, none => (itemsToJson? shape.item levels items).map .array
  | .object members =>
    match levels with
    | 0 => none
    | levels + 1 => (membersToJson? shape levels members).map .object

def itemsToJson? (shape : Shape) (levels : Nat) : List Source → Option (List Json)
  | [] => some []
  | item :: rest => do
    let value ← item.toJson? shape levels
    let values ← itemsToJson? shape levels rest
    some (value :: values)

/-- The values of the fields of a record that is written as a list. -/
def fieldsToJson? (shapes : List Shape) (levels : Nat) : List Source → Option (List Json)
  | [] => some []
  | item :: rest => do
    let value ← item.toJson? (shapes.headD .whole) levels
    let values ← fieldsToJson? shapes.tail levels rest
    some (value :: values)

/-- The values of the members that are read. The names of the others are read too. -/
def membersToJson? (shape : Shape) (levels : Nat) :
    List (List StringUnit × Source) → Option (List (String × Json))
  | [] => some []
  | (units, source) :: rest => do
    let name ← StringUnit.text? units
    match shape.member? name with
    | none => membersToJson? shape levels rest
    | some member =>
      let value ← source.toJson? member levels
      let values ← membersToJson? shape levels rest
      some ((name, value) :: values)

end

end Source

end UniversalQuery.Json
