import FragmentSearch.Text.CharacterNames.Aliases
import FragmentSearch.Text.CharacterNames.Alphabets
import FragmentSearch.Text.CharacterNames.Pictures
import FragmentSearch.Text.CharacterNames.Scripts
import FragmentSearch.Text.CharacterNames.Signs
import FragmentSearch.Text.CharacterNames.Syllables
import FragmentSearch.Text.Runs
import FragmentSearch.Text.Words

/-!
# Characters by name

The names of characters are written down in tables, one after the other with semicolons between them. A
digit says how many words a name has in common with the one before, and the other words follow. The code
point is that of the name before and one more, unless it stands in front of a colon.

Ideographs are named by their code points, Korean syllables by their letters, and a few rows of signs by
numbers. Case counts in the first two only.
-/

namespace FragmentSearch.Text

/-! ## 1. Tables -/

/-- A name in a table: its code point and its words. -/
structure NameCursor where
  code : Nat
  words : List (List Char)

/-- The name that an entry stands for, after another name. -/
def NameCursor.next (c : NameCursor) (item : List Char) : NameCursor :=
  let (code, item) := match takeHex 0 item with
    | (n, ':' :: r) => (n, r)
    | _ => (c.code + 1, item)
  match item with
  | d :: r => ⟨code, c.words.take ((hexDigit? d).getD 0) ++ splitAt ' ' r⟩
  | [] => ⟨code, c.words⟩

/-- The code point of the name with some words among the entries that follow a name. -/
def findName (words : List (List Char)) : NameCursor → List (List Char) → Option Nat
  | _, [] => none
  | c, item :: r =>
    if item.isEmpty then findName words c r
    else
      let c := c.next item
      if c.words = words then some c.code else findName words c r

/-- The code point of the name with some words in a table. -/
def findInTable (words : List (List Char)) (table : String) : Option Nat :=
  findName words ⟨0, []⟩ (splitAt ';' (table.toList.filter (· ≠ '\n')))

/-- All tables. -/
def nameTables : List String :=
  CharacterNames.alphabets ++ CharacterNames.signs ++ CharacterNames.syllables ++ CharacterNames.scripts ++
    CharacterNames.pictures ++ CharacterNames.aliases

/-! ## 2. Rows of signs -/

/-- Signs whose names are a common beginning and a number. -/
structure NumberedNames where
  beginning : String
  first : Nat
  last : Nat
  /-- The number of a code point. -/
  number : Nat → List Char

/-- A code point in hexadecimal, with capital letters. -/
def codeNumber (code : Nat) : List Char := (Nat.toDigits 16 code).map Char.toUpper

/-- The place of a code point in a row that is counted from `first` on, with at least `width` digits. -/
def rowNumber (start first width code : Nat) : List Char :=
  let ds := Nat.toDigits 10 (code - start + first)
  List.replicate (width - ds.length) '0' ++ ds

/-- The rows of signs. -/
def numberedNames : List NumberedNames :=
  [⟨"CJK COMPATIBILITY IDEOGRAPH-", 0xf900, 0xfa6d, codeNumber⟩,
    ⟨"CJK COMPATIBILITY IDEOGRAPH-", 0xfa70, 0xfad9, codeNumber⟩,
    ⟨"CJK COMPATIBILITY IDEOGRAPH-", 0x2f800, 0x2fa1d, codeNumber⟩,
    ⟨"NUSHU CHARACTER-", 0x1b170, 0x1b2fb, codeNumber⟩,
    ⟨"KHITAN SMALL SCRIPT CHARACTER-", 0x18b00, 0x18cd5, codeNumber⟩,
    ⟨"TANGUT COMPONENT-", 0x18800, 0x18aff, rowNumber 0x18800 1 3⟩,
    ⟨"VARIATION SELECTOR-", 0xfe00, 0xfe0f, rowNumber 0xfe00 1 1⟩,
    ⟨"VARIATION SELECTOR-", 0xe0100, 0xe01ef, rowNumber 0xe0100 17 1⟩,
    ⟨"VS", 0xfe00, 0xfe0f, rowNumber 0xfe00 1 1⟩,
    ⟨"VS", 0xe0100, 0xe01ef, rowNumber 0xe0100 17 1⟩]

/-- The code point of a name in a row of signs. -/
def NumberedNames.find? (row : NumberedNames) (name : List Char) : Option Nat :=
  if row.beginning.toList.isPrefixOf name then
    let number := name.drop row.beginning.length
    ((List.range (row.last + 1 - row.first)).find? fun i => row.number (row.first + i) = number).map (row.first + ·)
  else none

/-! ## 3. Korean syllables -/

/-- The letters that begin a syllable. -/
def leadingLetters : List String :=
  ["G", "GG", "N", "D", "DD", "R", "M", "B", "BB", "S", "SS", "", "J", "JJ", "C", "K", "T", "P", "H"]

/-- The letters in the middle of a syllable. -/
def middleLetters : List String :=
  ["A", "AE", "YA", "YAE", "EO", "E", "YEO", "YE", "O", "WA", "WAE", "OE", "YO", "U", "WEO", "WE", "WI", "YU", "EU",
    "YI", "I"]

/-- The letters that close a syllable. -/
def closingLetters : List String :=
  ["", "G", "GG", "GS", "N", "NJ", "NH", "D", "L", "LG", "LM", "LB", "LS", "LT", "LP", "LH", "M", "B", "BS", "S", "SS",
    "NG", "J", "C", "K", "T", "P", "H"]

/-- The longest of some letters with which a text begins: its number, and what follows. -/
def longestLetter (letters : List String) (s : List Char) : Option (Nat × List Char) :=
  let fitting := letters.zipIdx.filter fun p => p.1.toList.isPrefixOf s
  (fitting.foldl (fun best p => match best with
    | some (b : String × Nat) => if b.1.length < p.1.length then some p else some b
    | none => some p) none).map fun p => (p.2, s.drop p.1.length)

/-- The code point of a syllable. -/
def syllable? (s : List Char) : Option Nat := do
  let (leading, s) ← longestLetter leadingLetters s
  let (middle, s) ← longestLetter middleLetters s
  let (closing, s) ← longestLetter closingLetters s
  if s.isEmpty then some (0xac00 + (leading * 21 + middle) * 28 + closing) else none

/-! ## 4. Ideographs -/

/-- The first and last code points of the unified ideographs. -/
def ideographs : List (Nat × Nat) :=
  [(0x3400, 0x4dbf), (0x4e00, 0x9fff), (0x20000, 0x2a6df), (0x2a700, 0x2b738), (0x2b740, 0x2b81d), (0x2b820, 0x2cea1),
    (0x2ceb0, 0x2ebe0), (0x30000, 0x3134a)]

/-- Is the character a digit or a capital letter from A to F? -/
def isCapitalHex (c : Char) : Bool := ('0' ≤ c && c ≤ '9') || ('A' ≤ c && c ≤ 'F')

/-- The ideograph of a code point that four or five digits write. -/
def ideograph? (digits : List Char) : Option Nat :=
  let code := (takeHex 0 digits).1
  if (digits.length = 4 || digits.length = 5) && digits.all isCapitalHex &&
    ideographs.any (fun r => r.1 ≤ code && code ≤ r.2) then some code
  else none

/-! ## 5. All names -/

/-- What follows a beginning. -/
def after? (beginning : String) (s : List Char) : Option (List Char) :=
  if beginning.toList.isPrefixOf s then some (s.drop beginning.length) else none

/-- The code point of a character with a given name. -/
def characterNamed? (name : List Char) : Option Nat :=
  match after? "HANGUL SYLLABLE " name, after? "CJK UNIFIED IDEOGRAPH-" name with
  | some letters, _ => syllable? letters
  | none, some digits => ideograph? digits
  | none, none =>
    let name := name.map Char.toUpper
    match numberedNames.findSome? (·.find? name) with
    | some code => some code
    | none => nameTables.findSome? (findInTable (splitAt ' ' name))

end FragmentSearch.Text
