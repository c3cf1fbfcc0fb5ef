import FragmentSearch.Files.Tree
import FragmentSearch.Source.Extraction
import FragmentSearch.Text.CharacterName

/-!
# Fragments of a source file

A source file is read as text, its package follows from its place below a root directory, and its text
gives its fragments.
-/

namespace FragmentSearch

/-! ## 1. What can go wrong -/

/-- Why a file belongs to no package. -/
inductive PackageFault where
  /-- The file does not lie below the root. -/
  | outside (file root : Path)
  /-- The file is the root itself. -/
  | rootItself
  /-- Links go round in a circle. -/
  | circle (e : LinkLoop)

/-- The report of a fault. -/
def PackageFault.message : PackageFault → String
  | .outside file root =>
    Text.quoted file.text ++ " is not in the subpath of " ++ Text.quoted root.text ++
      " OR one path is relative and the other is absolute."
  | .rootItself => "PosixPath('.') has an empty name"
  | .circle e => e.message

/-- Why a file gives no fragments. -/
inductive FileReadFault where
  | unreadable (file : Path) (e : FileFault)
  /-- The bytes are not text. -/
  | notText (file : Path)
  | noPackage (e : PackageFault)
  | source (file : Path) (e : Source.SourceFault)

/-- The report of a fault. Of bytes that are not text only the file is named. -/
def FileReadFault.message : FileReadFault → String
  | .unreadable file e => "Cannot read " ++ file.text ++ ": " ++ e.message file.text
  | .notText file => "Cannot read " ++ file.text ++ ":"
  | .noPackage e => e.message
  | .source file e => e.message file.text

namespace FileTree

/-! ## 2. Text and package -/

/-- The text of a file. -/
def readText (t : FileTree) (file : Path) : Except FileReadFault String :=
  match t.bytes file with
  | .error e => .error (.unreadable file e)
  | .ok b =>
    match decode? b with
    | some s => .ok s
    | none => .error (.notText file)

/-- The file whose name stands for its directory. -/
def packageFile : String := "__init__"

/-- Some names without the last one, if that stands for its directory. -/
def withoutPackageFile (parts : List String) : List String :=
  if parts.getLast? = some packageFile then parts.dropLast else parts

/-- The names below the root, the last one without its extension. -/
def packageParts (parts : List String) : List String :=
  match parts.getLast? with
  | some last => withoutPackageFile (parts.dropLast ++ [(Path.splitSuffix last).1])
  | none => []

/-- The package of a file below a root: the names that lead to it with dots between them, or else the name
of the root. -/
def package (t : FileTree) (file root : Path) : Except PackageFault String :=
  match t.resolve file, t.resolve root with
  | .error e, _ | .ok _, .error e => .error (.circle e)
  | .ok f, .ok r =>
    match f.below? r with
    | none => .error (.outside f r)
    | some [] => .error .rootItself
    | some parts =>
      let name := ".".intercalate (packageParts parts)
      .ok (if name.isEmpty then r.name else name)

/-! ## 3. Fragments -/

/-- The fragments of a source file below a root. -/
def fragmentsOf (t : FileTree) (root file : Path) : Except FileReadFault (List Fragment) :=
  match t.readText file with
  | .error e => .error e
  | .ok s =>
    match t.package file root with
    | .error e => .error (.noPackage e)
    | .ok p =>
      match Source.fragments Text.characterNamed? s p file.text with
      | .ok fs => .ok fs
      | .error e => .error (.source file e)

end FileTree

end FragmentSearch
