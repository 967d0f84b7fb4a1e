import UniversalQuery.Decimal.Basic

set_option autoImplicit false

/-! Plain scalars that are read as something else than a text: nulls, truth values and numbers. -/

namespace UniversalQuery.Yaml

def reservedWords : List String :=
  ["", "~", "null", "Null", "NULL", "true", "True", "TRUE", "false", "False", "FALSE",
   ".inf", ".Inf", ".INF", "+.inf", "+.Inf", "+.INF", "-.inf", "-.Inf", "-.INF",
   ".nan", ".NaN", ".NAN"]

/-- Drops one sign. The first part says whether it is a minus sign. -/
def dropSign : List Char → Bool × List Char
  | '-' :: rest => (true, rest)
  | '+' :: rest => (false, rest)
  | text => (false, text)

/-- Whether a text is more than one digit of which the first is zero. -/
def hasLeadingZero (text : List Char) : Bool :=
  match (dropSign text).2 with
  | '0' :: c :: rest => (c :: rest).all Decimal.isDigit
  | _ => false

def baseDigit (c : Char) : Nat :=
  if '0' ≤ c ∧ c ≤ '9' then c.toNat - '0'.toNat
  else if 'a' ≤ c ∧ c ≤ 'f' then c.toNat - 'a'.toNat + 10
  else if 'A' ≤ c ∧ c ≤ 'F' then c.toNat - 'A'.toNat + 10
  else 16

def isBasedNumber (negative : Bool) (base : Nat) (digits : List Char) : Bool :=
  let value := digits.foldl (fun value c => value * base + baseDigit c) 0
  !digits.isEmpty && digits.all (baseDigit · < base) &&
    (if negative then value ≤ Nat.pow 2 127 else value < Nat.pow 2 128)

/-- Whether a text is a number in base sixteen, eight or two. -/
def isBasedInteger (text : List Char) : Bool :=
  match dropSign text with
  | (negative, '0' :: 'x' :: digits) => isBasedNumber negative 16 digits
  | (negative, '0' :: 'o' :: digits) => isBasedNumber negative 8 digits
  | (negative, '0' :: 'b' :: digits) => isBasedNumber negative 2 digits
  | _ => false

/-- Whether `coefficient · 10 ^ exponent` rounds to a finite floating-point number. -/
def isFiniteSize (coefficient : Nat) (exponent : Int) : Bool :=
  let digits : Int := (Nat.toDigits 10 coefficient).length
  if coefficient = 0 ∨ digits + exponent < 300 then true
  else if 400 < digits + exponent then false
  else
    coefficient * Nat.pow 10 exponent.toNat <
      (Nat.pow 2 1024 - Nat.pow 2 970) * Nat.pow 10 (-exponent).toNat

/-- The power of ten at the end of a number, if the text is one. -/
def exponent? : List Char → Option Int
  | [] => some 0
  | c :: text =>
    if c = 'e' ∨ c = 'E' then
      let (negative, digits) := dropSign text
      if !digits.isEmpty && digits.all Decimal.isDigit then
        let size : Int := Decimal.ofDigits digits
        some (if negative then -size else size)
      else none
    else none

/-- Whether a text is a finite decimal number, with or without digits before the point. -/
def isDecimalNumber (text : List Char) : Bool :=
  let text := (dropSign text).2
  let whole := text.takeWhile Decimal.isDigit
  let (fraction, text) := match text.dropWhile Decimal.isDigit with
    | '.' :: rest => (rest.takeWhile Decimal.isDigit, rest.dropWhile Decimal.isDigit)
    | rest => ([], rest)
  match exponent? text with
  | none => false
  | some exponent =>
    !(whole ++ fraction).isEmpty &&
      isFiniteSize (Decimal.ofDigits (whole ++ fraction)) (exponent - fraction.length)

def isReserved (text : String) : Bool :=
  let chars := text.toList
  reservedWords.contains text || hasLeadingZero chars || isBasedInteger chars ||
    isDecimalNumber chars

end UniversalQuery.Yaml
