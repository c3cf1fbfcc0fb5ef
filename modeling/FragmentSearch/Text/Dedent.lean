import FragmentSearch.Text.Words

/-!
# Dedenting documentation

Documentation is written with the indentation of the code around it. The smallest indentation of the
lines after the first is taken away from them, the first line loses its blanks, and empty lines at
both ends go.
-/

namespace FragmentSearch.Text

/-- Replaces tabs by blanks up to the next multiple of eight; `col` is the current column. -/
def expandTabs (col : Nat) : List Char → List Char
  | [] => []
  | c :: r =>
    if c = '\t' then
      let width := 8 - col % 8
      List.replicate width ' ' ++ expandTabs (col + width) r
    else if c = '\n' ∨ c = '\r' then c :: expandTabs 0 r
    else c :: expandTabs (col + 1) r

/-- The number of blanks in front of the first other character; none for a line of blanks. -/
def indentation? (line : List Char) : Option Nat :=
  let content := trimLeft line
  if content.isEmpty then none else some (line.length - content.length)

/-- The smallest indentation among lines that are not blank. -/
def margin? (rows : List (List Char)) : Option Nat := (rows.filterMap indentation?).min?

/-- Without the empty rows at the front. -/
def dropEmptyRows (rows : List (List Char)) : List (List Char) := rows.dropWhile List.isEmpty

/-- The dedented rows of a documentation text. -/
def dedentRows : List (List Char) → List (List Char)
  | [] => []
  | first :: rest =>
    let rest := match margin? rest with
      | some m => rest.map (List.drop m)
      | none => rest
    let rows := trimLeft first :: rest
    dropEmptyRows (dropEmptyRows rows.reverse).reverse

/-- The dedented form of a documentation text. -/
def dedent (s : List Char) : String :=
  "\n".intercalate ((dedentRows (splitAt '\n' (expandTabs 0 s))).map String.ofList)

end FragmentSearch.Text
