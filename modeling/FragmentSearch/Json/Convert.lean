import FragmentSearch.Decimal.Reading
import FragmentSearch.Decimal.Shortest
import FragmentSearch.Json.Basic

/-!
# Reading values as numbers, lists and texts

Values from outside are taken generously: a text that writes a number counts as the number, a truth value
as 0 or 1, a text as the list of its characters and an object as the list of its names. What cannot be
taken so is reported with the type of the value.
-/

namespace FragmentSearch

/-! ## 1. What can go wrong -/

/-- Why a value cannot be taken as it is wanted. -/
inductive ConversionError where
  /-- The text writes no integer. -/
  | notInteger (s : String)
  /-- The text has more digits than an integer may have. -/
  | integerTooLong (digits : Nat)
  /-- A value of this type is no integer. -/
  | noIntegerType (type : String)
  /-- The number is infinite and has no integer part. -/
  | infiniteInteger
  /-- The number is not a number and has no integer part. -/
  | undefinedInteger
  /-- The text writes no floating point number. -/
  | notFloat (s : String)
  /-- A value of this type is no floating point number. -/
  | noFloatType (type : String)
  /-- The integer is beyond the floating point numbers. -/
  | integerTooLarge
  /-- A value of this type has no items. -/
  | notIterable (type : String)
  /-- A value of this type has no length. -/
  | noLength (type : String)
  deriving DecidableEq

namespace ConversionError

/-- The report of an error. -/
def message : ConversionError → String
  | .notInteger s => "invalid literal for int() with base 10: " ++ Text.quoted s
  | .integerTooLong n =>
    "Exceeds the limit (" ++ toString Decimal.maxIntegerDigits ++ " digits) for integer string conversion: value has " ++
      toString n ++ " digits; use sys.set_int_max_str_digits() to increase the limit"
  | .noIntegerType t =>
    "int() argument must be a string, a bytes-like object or a real number, not '" ++ t ++ "'"
  | .infiniteInteger => "cannot convert float infinity to integer"
  | .undefinedInteger => "cannot convert float NaN to integer"
  | .notFloat s => "could not convert string to float: " ++ Text.quoted s
  | .noFloatType t => "float() argument must be a string or a real number, not '" ++ t ++ "'"
  | .integerTooLarge => "int too large to convert to float"
  | .notIterable t => "'" ++ t ++ "' object is not iterable"
  | .noLength t => "object of type '" ++ t ++ "' has no len()"

/-- Is the number itself out of range, its form being right? -/
def isOverflow : ConversionError → Bool
  | .infiniteInteger | .integerTooLarge => true
  | _ => false

end ConversionError

/-- An integer from a text. -/
def readInteger (s : String) : Except ConversionError Int :=
  match Decimal.readInt s with
  | .ok i => .ok i
  | .error .malformed => .error (.notInteger s)
  | .error (.tooLong n) => .error (.integerTooLong n)

namespace Json

/-! ## 2. Types and texts -/

/-- The name of the type of a value in reports. -/
def typeName : Json → String
  | .null => "NoneType"
  | .bool _ => "bool"
  | .int _ => "int"
  | .float _ => "float"
  | .text _ => "str"
  | .list _ => "list"
  | .object _ => "dict"

mutual

/-- A value as it is written inside another one. -/
def literal : Json → String
  | .null => "None"
  | .bool b => if b then "True" else "False"
  | .int i => toString i
  | .float x => Decimal.plain x
  | .text s => Text.quoted s
  | .list items => "[" ++ literals items ++ "]"
  | .object fields => "\x7b" ++ fieldLiterals fields ++ "\x7d"

/-- The items of a list with commas between them. -/
def literals : List Json → String
  | [] => ""
  | [v] => literal v
  | v :: r => literal v ++ ", " ++ literals r

/-- The fields of an object with commas between them. -/
def fieldLiterals : List (String × Json) → String
  | [] => ""
  | [(n, v)] => Text.quoted n ++ ": " ++ literal v
  | (n, v) :: r => Text.quoted n ++ ": " ++ literal v ++ ", " ++ fieldLiterals r

end

/-- A value as a text: a text is shown as it is. -/
def display : Json → String
  | .text s => s
  | v => literal v

/-! ## 3. Numbers -/

/-- A value as an integer; a fraction is cut off. -/
def toInt : Json → Except ConversionError Int
  | .bool b => .ok (if b then 1 else 0)
  | .int i => .ok i
  | .float x =>
    match Decimal.truncate? x with
    | some i => .ok i
    | none => .error (if x.isNaN then .undefinedInteger else .infiniteInteger)
  | .text s => readInteger s
  | v => .error (.noIntegerType v.typeName)

/-- A value as a floating point number. -/
def toFloat : Json → Except ConversionError Float
  | .bool b => .ok (if b then 1 else 0)
  | .int i =>
    match Decimal.ofInt? i with
    | some x => .ok x
    | none => .error .integerTooLarge
  | .float x => .ok x
  | .text s =>
    match Decimal.readFloat? s with
    | some x => .ok x
    | none => .error (.notFloat s)
  | v => .error (.noFloatType v.typeName)

/-! ## 4. Items -/

/-- The items of a value. -/
def items : Json → Except ConversionError (List Json)
  | .list xs => .ok xs
  | .text s => .ok (s.toList.map fun c => .text (String.ofList [c]))
  | .object fields => .ok (fields.map fun f => .text f.1)
  | v => .error (.notIterable v.typeName)

/-- How many items a value has. -/
def count : Json → Except ConversionError Nat
  | .list xs => .ok xs.length
  | .text s => .ok s.length
  | .object fields => .ok fields.length
  | v => .error (.noLength v.typeName)

/-- Is a value neither null, false, zero nor empty? -/
def isTrue : Json → Bool
  | .null => false
  | .bool b => b
  | .int i => i ≠ 0
  | .float x => !(x == 0)
  | .text s => !s.isEmpty
  | .list xs => !xs.isEmpty
  | .object fields => !fields.isEmpty

/-- The items of a value as floating point numbers. -/
def toFloats (v : Json) : Except ConversionError (List Float) := do
  (← v.items).mapM toFloat

end Json

end FragmentSearch
