import FragmentSearch.Files.Path

/-!
# File trees

Files, directories and symbolic links, and how a path leads through them.
-/

namespace FragmentSearch

/-! ## 1. Nodes -/

/-- A file, a directory or a symbolic link. -/
inductive Node where
  | file (content : ByteArray)
  | directory (entries : List (String × Node))
  | link (target : String)

/-- The files, and the directory in which relative paths begin. -/
structure FileTree where
  root : Node
  here : List String

/-- Why a path does not lead to a file. -/
inductive FileFault where
  | missing
  | notDirectory
  | isDirectory
  | tooManyLinks
  deriving DecidableEq

/-- The report of a fault for a path. -/
def FileFault.message (p : String) (e : FileFault) : String :=
  (match e with
    | .missing => "[Errno 2] No such file or directory: "
    | .notDirectory => "[Errno 20] Not a directory: "
    | .isDirectory => "[Errno 21] Is a directory: "
    | .tooManyLinks => "[Errno 40] Too many levels of symbolic links: ") ++ Text.quoted p

/-- The links of a path go round in a circle. -/
structure LinkLoop where
  path : String

/-- The report of a circle. -/
def LinkLoop.message (e : LinkLoop) : String := "Symlink loop from " ++ Text.quoted e.path

namespace Node

/-- The child of a name. -/
def child? (name : String) : List (String × Node) → Option Node
  | [] => none
  | (n, v) :: r => if n = name then some v else child? name r

/-- Changes the child of a name, or adds it at the end. -/
def setChild (name : String) (v : Node) : List (String × Node) → List (String × Node)
  | [] => [(name, v)]
  | (n, w) :: r => if n = name then (n, v) :: r else (n, w) :: setChild name v r

/-- The node at a place, links not followed. -/
def get? (root : Node) : List String → Option Node
  | [] => some root
  | n :: r =>
    match root with
    | .directory es => (child? n es).bind (get? · r)
    | _ => none

/-- Puts a node at a place; directories on the way are made, and anything else on the way is replaced. -/
def put (v : Node) : List String → Node → Node
  | [], _ => v
  | n :: r, .directory es => .directory (setChild n (put v r ((child? n es).getD (.directory []))) es)
  | n :: r, _ => .directory [(n, put v r (.directory []))]

/-! ## 2. Following a path -/

/-- So many links may be followed on the way. -/
def maxLinks : Nat := 40

/-- Where a path leads: the place, and what is there. -/
structure Found where
  /-- The names from the root, the last one first. -/
  place : List String
  node : Option Node

/-- Follows `todo` from `place`, whose last name stands first, over at most `links` links. -/
def follow (root : Node) (links : Nat) (place : List String) (todo : List String) : Except FileFault Found :=
  match todo with
  | [] => .ok ⟨place, root.get? place.reverse⟩
  | name :: rest =>
    match root.get? place.reverse with
    | some (.directory es) =>
      if name = ".." then follow root links place.tail rest
      else if name = "." then follow root links place rest
      else
        match child? name es with
        | none => if rest.isEmpty then .ok ⟨name :: place, none⟩ else .error .missing
        | some (.link target) =>
          match links with
          | 0 => .error .tooManyLinks
          | more + 1 =>
            follow root more (if (Path.ofText target).isAbsolute then [] else place) (Path.targetParts target ++ rest)
        | some _ => follow root links (name :: place) rest
    | some _ => .error .notDirectory
    | none => .error .missing
termination_by (links, todo.length)

end Node

namespace FileTree

/-- Where a path leads. -/
def find (t : FileTree) (p : Path) : Except FileFault Node.Found :=
  t.root.follow Node.maxLinks (if p.isAbsolute then [] else t.here.reverse) p.parts

/-- The node of a path, links followed. -/
def node (t : FileTree) (p : Path) : Except FileFault Node :=
  match t.find p with
  | .ok ⟨_, some v⟩ => .ok v
  | .ok ⟨_, none⟩ => .error .missing
  | .error e => .error e

/-- Does the path lead to a directory? -/
def isDirectory (t : FileTree) (p : Path) : Bool :=
  match t.node p with
  | .ok (.directory _) => true
  | _ => false

/-- Does the path lead to a file? -/
def isFile (t : FileTree) (p : Path) : Bool :=
  match t.node p with
  | .ok (.file _) => true
  | _ => false

/-! ## 3. Reading and writing -/

/-- The content of a file. -/
def bytes (t : FileTree) (p : Path) : Except FileFault ByteArray :=
  match t.node p with
  | .ok (.file b) => .ok b
  | .ok _ => .error .isDirectory
  | .error e => .error e

/-- Every end of a line as a line feed. -/
def lineFeeds : List Char → List Char
  | [] => []
  | '\r' :: '\n' :: r => '\n' :: lineFeeds r
  | '\r' :: r => '\n' :: lineFeeds r
  | c :: r => c :: lineFeeds r

/-- The text of bytes, if they are text. -/
def decode? (b : ByteArray) : Option String := (String.fromUTF8? b).map fun s => String.ofList (lineFeeds s.toList)

/-- Writes a file, which is made if it is not there. -/
def write (t : FileTree) (p : Path) (content : ByteArray) : Except FileFault FileTree :=
  match t.find p with
  | .ok ⟨_, some (.directory _)⟩ => .error .isDirectory
  | .ok ⟨place, _⟩ => .ok { t with root := Node.put (.file content) place.reverse t.root }
  | .error e => .error e

/-! ## 4. Resolving -/

/-- Replaces links in `rest` by what they point to, from a place whose last name stands first. `entered`
holds the places of the links being replaced; coming upon one of them again ends the replacement, and the
rest is taken as it is. The truth value says that there was no such circle. -/
def unlink (root : Node) (fuel : Nat) (entered : List (List String)) (place : List String) (rest : List String) :
    Bool × List String :=
  match rest with
  | [] => (true, place)
  | name :: rest =>
    if name = ".." then unlink root fuel entered place.tail rest
    else
      let next := name :: place
      match root.get? next.reverse, fuel with
      | some (.link target), more + 1 =>
        if next ∈ entered then (false, rest.reverse ++ next)
        else
          let t := Path.ofText target
          let (ended, reached) := unlink root more (next :: entered) (if t.isAbsolute then [] else place) t.parts
          if ended then unlink root (more + 1) entered reached rest else (false, rest.reverse ++ reached)
      | some (.link _), 0 => (false, rest.reverse ++ next)
      | _, fuel => unlink root fuel entered next rest
termination_by (fuel, rest.length)

/-- Takes a step along a place: two dots lead back. -/
def step (place : List String) (name : String) : List String := if name = ".." then place.tail else name :: place

/-- The absolute path without links. -/
def resolve (t : FileTree) (p : Path) : Except LinkLoop Path :=
  let (_, back) := unlink t.root Node.maxLinks [] (if p.isAbsolute then [] else t.here.reverse) p.parts
  let resolved := Path.absolute (back.reverse.foldl step []).reverse
  match t.find resolved with
  | .error .tooManyLinks => .error ⟨resolved.text⟩
  | _ => .ok resolved

end FileTree

end FragmentSearch
