import FragmentSearch.Text.Quoted
import FragmentSearch.Text.Words

/-!
# Paths

A path is a list of names, absolute or relative. Empty names and single dots are dropped when a path is
read; two dots are kept, because what they mean depends on the files.
-/

namespace FragmentSearch

open FragmentSearch.Text

/-- A path. -/
structure Path where
  /-- What stands before the first name: nothing in a relative path, else the slashes of the root. -/
  anchor : String
  parts : List String
  deriving DecidableEq

namespace Path

/-! ## 1. Text -/

/-- The slashes before the first name; two of them are kept, more count as one. -/
def anchorOf (s : List Char) : String :=
  match (s.takeWhile (· = '/')).length with
  | 0 => ""
  | 2 => "//"
  | _ => "/"

/-- The names of a path. -/
def partsOf (s : List Char) : List String :=
  ((splitAt '/' s).map String.ofList).filter fun p => p ≠ "" && p ≠ "."

/-- Reads a path. -/
def ofText (s : String) : Path := ⟨anchorOf s.toList, partsOf s.toList⟩

/-- The names of a path by which a link points: one that ends in a slash or a single dot must lead to a
directory, so it keeps a dot as its last name. -/
def targetParts (s : String) : List String :=
  let last := ((splitAt '/' s.toList).getLast?.map String.ofList).getD ""
  partsOf s.toList ++ if last = "" || last = "." then ["."] else []

/-- Writes a path. -/
def text (p : Path) : String :=
  if p.anchor.isEmpty && p.parts.isEmpty then "." else p.anchor ++ "/".intercalate p.parts

/-- The absolute path of some names. -/
def absolute (parts : List String) : Path := ⟨"/", parts⟩

/-- Is the path absolute? -/
def isAbsolute (p : Path) : Bool := !p.anchor.isEmpty

/-! ## 2. Parts -/

/-- The last name. -/
def name (p : Path) : String := p.parts.getLast?.getD ""

/-- The path without its last name. -/
def parent (p : Path) : Path := { p with parts := p.parts.dropLast }

/-- The path with more names. -/
def under (p : Path) (parts : List String) : Path := { p with parts := p.parts ++ parts }

/-- The name without its extension, and the extension with its dot; a name that begins with its only dot
or ends with a dot has none. -/
def splitSuffix (name : String) : String × String :=
  let back := name.toList.reverse
  let suffix := (back.takeWhile (· ≠ '.')).reverse
  let stem := ((back.dropWhile (· ≠ '.')).drop 1).reverse
  if suffix.isEmpty || stem.isEmpty then (name, "")
  else (String.ofList stem, String.ofList ('.' :: suffix))

/-- The extension of the last name. -/
def suffix (p : Path) : String := (splitSuffix p.name).2

/-- The extension of a file name: from its last dot on, unless only dots stand before it. -/
def extension (name : String) : String :=
  let back := name.toList.reverse
  let rest := back.dropWhile (· ≠ '.')
  let stem := rest.drop 1
  if rest.isEmpty || stem.all (· = '.') then ""
  else String.ofList ('.' :: (back.takeWhile (· ≠ '.')).reverse)

/-- The names that come after `root`, if the path is below it. -/
def below? (p root : Path) : Option (List String) :=
  if p.anchor = root.anchor ∧ root.parts.isPrefixOf p.parts then some (p.parts.drop root.parts.length) else none

/-! ## 3. Order -/

/-- The names by which paths are compared. -/
def key (p : Path) : List String := if p.anchor.isEmpty then p.parts else p.anchor :: p.parts

/-- Paths in the order of their names. -/
def inOrder (ps : List Path) : List Path := ps.mergeSort fun a b => !(decide (b.key < a.key))

end Path

end FragmentSearch
