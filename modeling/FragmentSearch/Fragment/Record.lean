import FragmentSearch.Fragment.Basic
import FragmentSearch.Json.Convert
import FragmentSearch.Text.Case

/-!
# Fragments as records

A fragment as a JSON object and back. Only `id`, `kind` and `name` must be there; the kind is read
without regard to case, numbers and lists are taken generously, unknown fields are left aside. What a
record holds in its other fields is taken as it is. The program makes a fragment of every record and takes
what comes of it; here only a record that holds texts is a fragment, and of the others nothing is said.
-/

namespace FragmentSearch

/-! ## 1. What can go wrong -/

/-- Why a value is no fragment. -/
inductive RecordError where
  /-- A field that must be there is missing. -/
  | missing (field : String)
  /-- There is no such kind. -/
  | unknownKind (name : String)
  /-- The value is not an object. -/
  | notObject (value : Json)
  /-- A number or a list cannot be read. -/
  | conversion (e : ConversionError)

/-- The report of a name that is no kind. -/
def unknownKindMessage (name : String) : String := Text.quoted name ++ " is not a valid FragmentKind"

/-- The report of an error. -/
def RecordError.message : RecordError → String
  | .missing field => Text.quoted field
  | .unknownKind name => unknownKindMessage name
  | .notObject (.text _) => "string indices must be integers, not 'str'"
  | .notObject (.list _) => "list indices must be integers or slices, not str"
  | .notObject v => "'" ++ v.typeName ++ "' object is not subscriptable"
  | .conversion e => e.message

/-- Is a number of the record out of range? -/
def RecordError.isOverflow : RecordError → Bool
  | .conversion e => e.isOverflow
  | _ => false

/-! ## 2. Records -/

/-- What an object says of a fragment: the kind, the numbers, the list of dependencies and the vector are
converted, the other values are not. -/
structure Record where
  id : Json
  kind : Kind
  name : Json
  signature : Json
  content : Json
  filePath : Json
  startLine : Int
  endLine : Int
  package : Json
  documentation : Json
  dependencies : List Json
  embedding : Option (List Float)

namespace Record

/-- A field that must be there. -/
def required (fields : List (String × Json)) (name : String) : Except RecordError Json :=
  match Json.lookup name fields with
  | some v => .ok v
  | none => .error (.missing name)

/-- A field that may be missing. -/
def optional (fields : List (String × Json)) (name : String) : Json := (Json.lookup name fields).getD .null

/-- A conversion as part of reading a record. -/
def converted {α : Type} : Except ConversionError α → Except RecordError α
  | .ok a => .ok a
  | .error e => .error (.conversion e)

/-- A line number; 0 if it is not given. -/
def lineNumber (fields : List (String × Json)) (name : String) : Except RecordError Int :=
  converted ((Json.lookup name fields).getD (.int 0)).toInt

/-- The kind that a value names. -/
def kindOf (v : Json) : Except RecordError Kind :=
  let name := Text.upper v.display
  match Kind.ofName? name with
  | some k => .ok k
  | none => .error (.unknownKind name)

/-- The items of a list of dependencies; nothing, zero and the like count as no dependencies. -/
def dependenciesOf (v : Json) : Except RecordError (List Json) := if v.isTrue then converted v.items else .ok []

/-- The vector of a record. -/
def vectorOf : Json → Except RecordError (Option (List Float))
  | .null => .ok none
  | v => (converted v.toFloats).map some

/-- Reads a record from the fields of an object. -/
def ofFields (fields : List (String × Json)) : Except RecordError Record := do
  let id ← required fields "id"
  let kind ← kindOf (← required fields "kind")
  let name ← required fields "name"
  let startLine ← lineNumber fields "start_line"
  let endLine ← lineNumber fields "end_line"
  let dependencies ← dependenciesOf (optional fields "dependencies")
  let embedding ← vectorOf (optional fields "embedding")
  return {
    id := id
    kind := kind
    name := name
    signature := optional fields "signature"
    content := optional fields "content"
    filePath := (Json.lookup "file_path" fields).getD (.text "")
    startLine := startLine
    endLine := endLine
    package := optional fields "package_name"
    documentation := optional fields "documentation"
    dependencies := dependencies
    embedding := embedding }

/-- Reads a record from a value. -/
def ofJson : Json → Except RecordError Record
  | .object fields => ofFields fields
  | v => .error (.notObject v)

end Record

namespace Fragment

/-! ## 3. From a record -/

/-- A value that is a text. -/
def text? : Json → Option String
  | .text s => some s
  | _ => none

/-- A value that is a text or null. -/
def textOrNull? : Json → Option (Option String)
  | .text s => some (some s)
  | .null => some none
  | _ => none

/-- The fragment of a record that holds texts. -/
def ofRecord? (r : Record) : Option Fragment := do
  return {
    id := ← text? r.id
    kind := r.kind
    name := ← textOrNull? r.name
    signature := ← textOrNull? r.signature
    content := ← textOrNull? r.content
    filePath := ← text? r.filePath
    startLine := r.startLine
    endLine := r.endLine
    package := ← textOrNull? r.package
    documentation := ← textOrNull? r.documentation
    dependencies := ← r.dependencies.mapM text?
    embedding := r.embedding }

/-! ## 4. To a record -/

/-- A vector as a value. -/
def vectorToJson : Option (List Float) → Json
  | some xs => .list (xs.map .float)
  | none => .null

/-- The fields of a fragment without its vector. -/
def plainFields (f : Fragment) : List (String × Json) :=
  [("id", .text f.id), ("kind", .text f.kind.name), ("name", .ofText? f.name),
    ("signature", .ofText? f.signature), ("content", .ofText? f.content), ("file_path", .text f.filePath),
    ("start_line", .int f.startLine), ("end_line", .int f.endLine), ("package_name", .ofText? f.package),
    ("documentation", .ofText? f.documentation), ("dependencies", .ofTexts f.dependencies)]

/-- A fragment as an object, with its vector if `withVector` is set. -/
def toJson (withVector : Bool) (f : Fragment) : Json :=
  .object (f.plainFields ++ if withVector then [("embedding", vectorToJson f.embedding)] else [])

end Fragment

end FragmentSearch
