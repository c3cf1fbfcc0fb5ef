import FragmentSearch.Text.Runs
import FragmentSearch.Text.ClassTable

/-!
# Character classes

What counts as a letter or number, a blank, a decimal digit, and a character shown as it is.
ASCII is decided by arithmetic, everything above it by the tables.
-/

namespace FragmentSearch.Text

/-! ## 1. The tables, read once -/

/-- Letters and numbers above ASCII. -/
def alphanumericSpans : Spans := Spans.ofTable Table.alphanumeric

/-- Blanks above ASCII. -/
def blankSpans : Spans := Spans.ofTable Table.blank

/-- Decimal digits above ASCII. -/
def decimalDigitSpans : Spans := Spans.ofTable Table.decimalDigit

/-- Printable code points above ASCII. -/
def printableSpans : Spans := Spans.ofTable Table.printable

/-! ## 2. The classes -/

/-- Letters and numbers of any script. -/
def isAlphanumeric (c : Char) : Bool :=
  if c.toNat < 128 then c.isAlphanum else alphanumericSpans.contains c.toNat

/-- A word of free text is a run of letters, numbers and underscores. -/
def isWordChar (c : Char) : Bool := c = '_' || isAlphanumeric c

/-- The characters that separate words: the ASCII blanks with the four information separators, and
the blanks of other scripts. -/
def isBlank (c : Char) : Bool :=
  if c.toNat < 128 then (9 ≤ c.toNat && c.toNat ≤ 13) || (28 ≤ c.toNat && c.toNat ≤ 32)
  else blankSpans.contains c.toNat

/-- The value of a decimal digit of any script. -/
def digitValue? (c : Char) : Option Nat :=
  if c.toNat < 128 then (if c.isDigit then some (c.toNat - '0'.toNat) else none)
  else (decimalDigitSpans.offset? c.toNat).map (· % 10)

/-- Code points that a quoted text shows as they are; surrogates are not among them. -/
def isPrintable (code : Nat) : Bool :=
  if code < 128 then 32 ≤ code && code ≤ 126 else printableSpans.contains code

end FragmentSearch.Text
