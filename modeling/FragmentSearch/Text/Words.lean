import FragmentSearch.Text.Class

/-!
# Words, lines and pieces of a text

Texts are cut in four ways: at blanks (`words`), at the ends of a text (`trim`), at line boundaries
(`lines`) and at a given character (`splitAt`). `indexOf?` finds the first place of one text in another.
All of them work on lists of characters.
-/

namespace FragmentSearch.Text

/-! ## 1. Cutting at one character -/

/-- The pieces of `s` between the characters `sep`, the empty ones included. -/
def splitAt (sep : Char) : List Char → List (List Char)
  | [] => [[]]
  | c :: r =>
    if c = sep then [] :: splitAt sep r
    else match splitAt sep r with
      | [] => [[c]]
      | piece :: pieces => (c :: piece) :: pieces

/-- The pieces of `s` between the characters that satisfy `sep`, the empty ones dropped. -/
def splitWhere (sep : Char → Bool) : List Char → List (List Char)
  | [] => []
  | c :: r =>
    if sep c then splitWhere sep r
    else
      match r, splitWhere sep r with
      | d :: _, piece :: pieces => if sep d then [c] :: piece :: pieces else (c :: piece) :: pieces
      | _, pieces => [c] :: pieces

/-- The words of a text: what stands between blanks. -/
def words (s : String) : List String := (splitWhere isBlank s.toList).map String.ofList

/-! ## 2. Trimming -/

/-- Without the blanks at the front. -/
def trimLeft (s : List Char) : List Char := s.dropWhile isBlank

/-- Without the blanks at the end. -/
def trimRight (s : List Char) : List Char := (s.reverse.dropWhile isBlank).reverse

/-- Without the blanks at both ends. -/
def trim (s : String) : String := String.ofList (trimRight (trimLeft s.toList))

/-! ## 3. Lines -/

/-- The characters that end a line of text. A carriage return with its line feed counts once. -/
def isLineEnd (c : Char) : Bool :=
  (10 ≤ c.toNat && c.toNat ≤ 13) || (28 ≤ c.toNat && c.toNat ≤ 30) || c.toNat = 0x85 ||
    c.toNat = 0x2028 || c.toNat = 0x2029

/-- The lines of a text without their ends; `acc` is the open line, last character first. A text that
ends with a line end has no empty last line. -/
def linesFrom (acc : List Char) : List Char → List (List Char)
  | [] => if acc.isEmpty then [] else [acc.reverse]
  | '\r' :: '\n' :: r => acc.reverse :: linesFrom [] r
  | c :: r => if isLineEnd c then acc.reverse :: linesFrom [] r else linesFrom (c :: acc) r

/-- The lines of a text. -/
def lines (s : String) : List String := (linesFrom [] s.toList).map String.ofList

/-! ## 4. Finding -/

/-- The first position at which `needle` occurs. -/
def indexOf? (needle : List Char) : List Char → Option Nat
  | [] => if needle.isEmpty then some 0 else none
  | c :: r =>
    if needle.isPrefixOf (c :: r) then some 0
    else (indexOf? needle r).map (· + 1)

/-- Does `needle` occur in `s`? -/
def occursIn (needle s : String) : Bool := (indexOf? needle.toList s.toList).isSome

/-! ## 5. Replacing -/

/-- Every occurrence of `old`, from left to right, replaced by `new`; the fuel is the length of the text. -/
def replaceFrom (old new : List Char) : Nat → List Char → List Char
  | 0, s => s
  | _ + 1, [] => []
  | fuel + 1, c :: r =>
    if old.isPrefixOf (c :: r) && !old.isEmpty then new ++ replaceFrom old new fuel ((c :: r).drop old.length)
    else c :: replaceFrom old new fuel r

/-- Replaces every occurrence of `old` by `new`. -/
def replaceAll (old new s : String) : String :=
  String.ofList (replaceFrom old.toList new.toList s.toList.length s.toList)

end FragmentSearch.Text
