import FragmentSearch.Config.Basic
import FragmentSearch.Files.Tree

/-!
# Source files of a directory

A scan finds the files below a directory by their extension. Directories with excluded names and linked
directories are not entered; links to files count as files, and a file that is too large is left aside.
-/

namespace FragmentSearch

/-! ## 1. Entries -/

mutual

/-- The places, from `here` on, of all that is no directory at or below the entry `name`. -/
def Node.leaves (excluded : List String) (here : List String) (name : String) : Node → List (List String)
  | .directory es => if name ∈ excluded then [] else leavesOf excluded (here ++ [name]) es
  | .file _ => [here ++ [name]]
  | .link _ => [here ++ [name]]

/-- The places of all that is no directory at or below some entries. -/
def leavesOf (excluded : List String) (here : List String) : List (String × Node) → List (List String)
  | [] => []
  | (n, v) :: r => v.leaves excluded here n ++ leavesOf excluded here r

end

namespace FileTree

/-- All that is no directory below the directory of a path. -/
def leaves (t : FileTree) (excluded : List String) (p : Path) : List (List String) :=
  match t.node p with
  | .ok (.directory es) => leavesOf excluded [] es
  | _ => []

/-! ## 2. The scan -/

/-- Does the path lead to a file of at most `limit` bytes? -/
def isFileUpTo (t : FileTree) (limit : Int) (p : Path) : Bool :=
  match t.node p with
  | .ok (.file b) => (b.size : Int) ≤ limit
  | _ => false

/-- The source files below a directory, in the order of their paths. -/
def scan (t : FileTree) (c : Config) (root : Path) : List Path :=
  let named := (t.leaves c.excludedDirs root).filter fun parts =>
    c.extensions.contains (Path.extension (parts.getLast?.getD ""))
  Path.inOrder ((named.map root.under).filter (t.isFileUpTo c.maxFileBytes))

end FileTree

end FragmentSearch
