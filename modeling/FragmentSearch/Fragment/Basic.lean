/-!
# Code fragments

A fragment is one unit of code: a class, an interface, a method, a field or an enumeration, with the
place where it stands, its documentation and the names it depends on. A vector may be attached to it
later. Fragments are told apart by their `id` alone.
-/

namespace FragmentSearch

/-! ## 1. Kinds -/

/-- What kind of unit a fragment is. -/
inductive Kind where
  | classKind
  | interface
  | method
  | field
  | enumeration
  deriving DecidableEq, Repr

namespace Kind

/-- The kinds in the order in which they are counted. -/
def all : List Kind := [.classKind, .interface, .method, .field, .enumeration]

/-- The name of a kind. -/
def name : Kind → String
  | .classKind => "CLASS"
  | .interface => "INTERFACE"
  | .method => "METHOD"
  | .field => "FIELD"
  | .enumeration => "ENUM"

/-- The name of a kind as a heading for several fragments. -/
def plural : Kind → String
  | .classKind => "Classs"
  | .interface => "Interfaces"
  | .method => "Methods"
  | .field => "Fields"
  | .enumeration => "Enums"

/-- The kind of a name. -/
def ofName? (s : String) : Option Kind := all.find? (·.name = s)

theorem mem_all (k : Kind) : k ∈ all := by cases k <;> decide

end Kind

/-! ## 2. Fragments -/

/-- One unit of code. -/
structure Fragment where
  id : String
  kind : Kind
  /-- The bare name; a fragment set from elsewhere may leave it out. -/
  name : Option String
  signature : Option String
  content : Option String
  filePath : String
  startLine : Int
  endLine : Int
  package : Option String
  documentation : Option String
  dependencies : List String
  embedding : Option (List Float)

namespace Fragment

/-- An optional text as it is shown. -/
def shown : Option String → String
  | some s => s
  | none => "None"

/-- Is there a text, and not an empty one? -/
def isGiven : Option String → Bool
  | some s => !s.isEmpty
  | none => false

/-- Has the fragment documentation? -/
def isDocumented (f : Fragment) : Bool := isGiven f.documentation

/-- Has the fragment a vector that is not empty? -/
def isEmbedded (f : Fragment) : Bool :=
  match f.embedding with
  | some (_ :: _) => true
  | _ => false

/-- One line that names the fragment. -/
def title (f : Fragment) : String := f.kind.name ++ ": " ++ shown f.name ++ " (" ++ f.filePath ++ ")"

/-- The block of text that stands for the fragment in prompts and when it is embedded: its place, its
documentation, and its signature or else its content. -/
def contextText (f : Fragment) : String :=
  "# File: " ++ f.filePath ++ "\n" ++
  "# Lines: " ++ toString f.startLine ++ "-" ++ toString f.endLine ++ "\n" ++
  (match f.documentation with
    | some d => if d.isEmpty then "" else d ++ "\n"
    | none => "") ++
  (match f.signature with
    | some s => if s.isEmpty then shown f.content else s
    | none => shown f.content) ++ "\n"

end Fragment

end FragmentSearch
