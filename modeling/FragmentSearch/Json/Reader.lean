import FragmentSearch.Json.Basic
import FragmentSearch.Decimal.Reading

/-!
# Reading JSON

`Json.parse` reads a whole text as one value. Beside the standard it accepts `NaN`, `Infinity` and
`-Infinity`; it refuses control characters inside texts and a byte order mark in front. A fault
carries what was expected and the position, counted in characters from zero. A lone surrogate escape
reads as the replacement character.
-/

namespace FragmentSearch.Json

open FragmentSearch.Text FragmentSearch.Decimal

/-! ## 1. Faults -/

/-- What is wrong with a text. -/
inductive Reason where
  | value
  | fieldName
  | colon
  | comma
  | unterminatedText
  | controlCharacter
  | escape
  | unicodeEscape
  | extraData
  | byteOrderMark
  deriving DecidableEq, Repr

/-- The wording of a reason. -/
def Reason.message : Reason → String
  | .value => "Expecting value"
  | .fieldName => "Expecting property name enclosed in double quotes"
  | .colon => "Expecting ':' delimiter"
  | .comma => "Expecting ',' delimiter"
  | .unterminatedText => "Unterminated string starting at"
  | .controlCharacter => "Invalid control character at"
  | .escape => "Invalid \\escape"
  | .unicodeEscape => "Invalid \\uXXXX escape"
  | .extraData => "Extra data"
  | .byteOrderMark => "Unexpected UTF-8 BOM (decode using utf-8-sig)"

/-- Why a text is no value. -/
inductive Fault where
  | malformed (reason : Reason) (position : Nat)
  | integerTooLong (digits : Nat)
  deriving DecidableEq, Repr

/-- What a reading step gives: a value, the rest of the text and its position. -/
abbrev Step (α : Type) := Except Fault (α × List Char × Nat)

/-- Stops with a fault. -/
def stop {α : Type} (reason : Reason) (position : Nat) : Step α := .error (.malformed reason position)

/-! ## 2. Blanks and texts -/

/-- The blanks between the parts of a value. -/
def isGap (c : Char) : Bool := c = ' ' || c = '\t' || c = '\n' || c = '\r'

/-- Skips blanks. -/
def skipGap (pos : Nat) : List Char → List Char × Nat
  | [] => ([], pos)
  | c :: r => if isGap c then skipGap (pos + 1) r else (c :: r, pos)

/-- The number that four hexadecimal digits write. -/
def hexQuad? (a b c d : Char) : Option Nat := do
  let a ← hexDigit? a
  let b ← hexDigit? b
  let c ← hexDigit? c
  let d ← hexDigit? d
  return ((a * 16 + b) * 16 + c) * 16 + d

/-- The first half of a pair of surrogates. -/
def isHighSurrogate (code : Nat) : Bool := 0xd800 ≤ code && code ≤ 0xdbff

/-- The second half of a pair of surrogates. -/
def isLowSurrogate (code : Nat) : Bool := 0xdc00 ≤ code && code ≤ 0xdfff

/-- The character of a code point. A lone surrogate is no character, though a text of the program may hold one: here the
replacement character U+FFFD stands for it, so that texts with different lone surrogates are read as the same text. -/
def charOf (code : Nat) : Char :=
  if isHighSurrogate code || isLowSurrogate code then Char.ofNat 0xfffd else Char.ofNat code

/-- The character that a one-letter escape stands for. -/
def shortEscape? (c : Char) : Option Char :=
  if c = '"' ∨ c = '\\' ∨ c = '/' then some c
  else if c = 'b' then some (Char.ofNat 8)
  else if c = 'f' then some (Char.ofNat 12)
  else if c = 'n' then some '\n'
  else if c = 'r' then some '\r'
  else if c = 't' then some '\t'
  else none

/-- The second half of a pair of surrogates, if an escape for one follows; `pos` is the position of the
text. The escape must not be the last thing of the whole input. -/
def lowSurrogate? (pos : Nat) : List Char → Except Fault (Option Nat)
  | '\\' :: 'u' :: a :: b :: c :: d :: _ :: _ =>
    match hexQuad? a b c d with
    | none => .error (.malformed .unicodeEscape (pos + 1))
    | some low => .ok (if isLowSurrogate low then some low else none)
  | _ => .ok none

/-- The character of a numeric escape and its width after the mark `u`, which stands at `pos`. -/
def readUnicodeEscape (pos : Nat) : List Char → Except Fault (Char × Nat)
  | a :: b :: c :: d :: x :: r =>
    match hexQuad? a b c d with
    | none => .error (.malformed .unicodeEscape pos)
    | some code =>
      if isHighSurrogate code then
        match lowSurrogate? (pos + 5) (x :: r) with
        | .error e => .error e
        | .ok (some low) => .ok (Char.ofNat (0x10000 + (code - 0xd800) * 1024 + (low - 0xdc00)), 10)
        | .ok none => .ok (charOf code, 4)
      else .ok (charOf code, 4)
  | _ => .error (.malformed .unicodeEscape pos)

/-- The character of an escape and its width after the backslash, which stands at `pos`, in a text that
starts at `start`. -/
def readEscape (start pos : Nat) : List Char → Except Fault (Char × Nat)
  | [] => .error (.malformed .unterminatedText start)
  | c :: r =>
    if c = 'u' then
      match readUnicodeEscape (pos + 1) r with
      | .ok (d, width) => .ok (d, width + 1)
      | .error e => .error e
    else match shortEscape? c with
      | some d => .ok (d, 1)
      | none => .error (.malformed .escape pos)

/-- Reads a text after its opening quote, which stands at `start`; `acc` is what has been read, last
character first, and `skip` counts characters that belong to the last escape. -/
def readText (start : Nat) (acc : List Char) (pos skip : Nat) : List Char → Step String
  | [] => stop .unterminatedText start
  | c :: r =>
    if 0 < skip then readText start acc (pos + 1) (skip - 1) r
    else if c = '"' then .ok (String.ofList acc.reverse, r, pos + 1)
    else if c = '\\' then
      match readEscape start pos r with
      | .ok (d, width) => readText start (d :: acc) (pos + 1) width r
      | .error e => .error e
    else if c.toNat < 32 then stop .controlCharacter pos
    else readText start (c :: acc) (pos + 1) 0 r

/-! ## 3. Numbers -/

/-- Digits at the front of a text, and the rest. -/
def takeDigits (s : List Char) : List Char × List Char := (s.takeWhile Char.isDigit, s.dropWhile Char.isDigit)

/-- Splits off a fraction: a point that a digit follows. -/
def takeFraction : List Char → List Char × List Char
  | '.' :: r => match takeDigits r with
    | ([], _) => ([], '.' :: r)
    | (ds, rest) => (ds, rest)
  | r => ([], r)

/-- Splits off an exponent: its mark, a sign or none, and at least one digit. -/
def takeExponent? : List Char → Option (Int × Nat × List Char)
  | [] => none
  | c :: r =>
    if c = 'e' ∨ c = 'E' then
      let (negative, body) := takeSign r
      match takeDigits body with
      | ([], _) => none
      | (ds, rest) =>
        let n : Int := digitsValue 0 ds
        some (if negative then -n else n, 1 + (r.length - body.length) + ds.length, rest)
    else none

/-- The digits in front of the point: one zero, or digits that do not begin with zero. -/
def takeWhole : List Char → List Char × List Char
  | '0' :: r => (['0'], r)
  | r => takeDigits r

/-- Reads a number that starts at `pos`. -/
def readNumber (pos : Nat) (s : List Char) : Step Json :=
  let (negative, body) := match s with
    | '-' :: r => (true, r)
    | r => (false, r)
  match takeWhole body with
  | ([], _) => stop .value pos
  | (whole, rest) =>
    let (places, rest') := takeFraction rest
    let after := pos + (s.length - body.length) + whole.length +
      (if places.isEmpty then 0 else places.length + 1)
    let mantissa := digitsValue 0 (whole ++ places)
    match takeExponent? rest' with
    | some (e, width, rest'') =>
      .ok (.float (ofDecimal negative mantissa (e - places.length)), rest'', after + width)
    | none =>
      if places.isEmpty then
        if maxIntegerDigits < whole.length then .error (.integerTooLong whole.length)
        else .ok (.int (if negative then -(mantissa : Int) else mantissa), rest', after)
      else .ok (.float (ofDecimal negative mantissa (-(places.length : Int))), rest', after)

/-! ## 4. Values -/

/-- The words that stand for a value. -/
def keywords : List (String × Json) :=
  [("null", .null), ("true", .bool true), ("false", .bool false), ("NaN", .float notANumber),
    ("Infinity", .float infinity), ("-Infinity", .float (-infinity))]

/-- The keyword at the front of a text. -/
def keyword? (s : List Char) : Option (String × Json) :=
  keywords.find? fun k => k.1.toList.isPrefixOf s

mutual

/-- Reads a value at `pos`. The fuel bounds the number of parts. -/
def readValue : Nat → Nat → List Char → Step Json
  | 0, pos, _ => stop .value pos
  | _ + 1, pos, [] => stop .value pos
  | fuel + 1, pos, c :: r =>
    if c = '"' then
      match readText pos [] (pos + 1) 0 r with
      | .ok (s, rest, p) => .ok (.text s, rest, p)
      | .error e => .error e
    else if c = '[' then
      let (rest, p) := skipGap (pos + 1) r
      match rest with
      | ']' :: rest' => .ok (.list [], rest', p + 1)
      | _ => readItems fuel [] p rest
    else if c = '\x7b' then
      let (rest, p) := skipGap (pos + 1) r
      match rest with
      | '\x7d' :: rest' => .ok (.object [], rest', p + 1)
      | _ => readFields fuel [] p rest
    else match keyword? (c :: r) with
      | some (word, v) => .ok (v, (c :: r).drop word.length, pos + word.length)
      | none => readNumber pos (c :: r)

/-- Reads the items of a list; `acc` holds those already read, last first. -/
def readItems : Nat → List Json → Nat → List Char → Step Json
  | 0, _, pos, _ => stop .value pos
  | fuel + 1, acc, pos, s =>
    match readValue fuel pos s with
    | .error e => .error e
    | .ok (v, rest, p) =>
      let (rest, p) := skipGap p rest
      match rest with
      | ']' :: rest' => .ok (.list (v :: acc).reverse, rest', p + 1)
      | ',' :: rest' =>
        let (rest'', p') := skipGap (p + 1) rest'
        readItems fuel (v :: acc) p' rest''
      | _ => stop .comma p

/-- Reads the fields of an object; `acc` holds those already read, in order. -/
def readFields : Nat → List (String × Json) → Nat → List Char → Step Json
  | 0, _, pos, _ => stop .value pos
  | fuel + 1, acc, pos, s =>
    match s with
    | '"' :: r =>
      match readText pos [] (pos + 1) 0 r with
      | .error e => .error e
      | .ok (name, rest, p) =>
        let (rest, p) := skipGap p rest
        match rest with
        | ':' :: rest =>
          let (rest, p) := skipGap (p + 1) rest
          match readValue fuel p rest with
          | .error e => .error e
          | .ok (v, rest, p) =>
            let (rest, p) := skipGap p rest
            match rest with
            | '\x7d' :: rest' => .ok (.object (setField name v acc), rest', p + 1)
            | ',' :: rest' =>
              let (rest'', p') := skipGap (p + 1) rest'
              readFields fuel (setField name v acc) p' rest''
            | _ => stop .comma p
        | _ => stop .colon p
    | _ => stop .fieldName pos

end

/-- Reads a whole text as one value. -/
def parse (s : String) : Except Fault Json :=
  let cs := s.toList
  if cs.head? = some (Char.ofNat 0xfeff) then .error (.malformed .byteOrderMark 0)
  else
    let (rest, pos) := skipGap 0 cs
    match readValue (2 * cs.length + 2) pos rest with
    | .error e => .error e
    | .ok (v, rest, pos) =>
      match skipGap pos rest with
      | ([], _) => .ok v
      | (_, p) => .error (.malformed .extraData p)

/-! ## 5. The wording of a fault -/

/-- Line and column of a position, both counted from one; lines end with a line feed. -/
def lineAndColumn (s : String) (position : Nat) : Nat × Nat :=
  let before := s.toList.take position
  let lines := before.count '\n'
  (lines + 1, (before.reverse.takeWhile (· ≠ '\n')).length + 1)

/-- The message for a fault in the text `s`. -/
def Fault.message (s : String) : Fault → String
  | .malformed reason position =>
    let (line, column) := lineAndColumn s position
    reason.message ++ ": line " ++ toString line ++ " column " ++ toString column ++
      " (char " ++ toString position ++ ")"
  | .integerTooLong digits =>
    "Exceeds the limit (4300 digits) for integer string conversion: value has " ++ toString digits ++
      " digits; use sys.set_int_max_str_digits() to increase the limit"

end FragmentSearch.Json
