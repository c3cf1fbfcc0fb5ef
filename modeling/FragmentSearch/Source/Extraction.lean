import FragmentSearch.Fragment.Basic
import FragmentSearch.Source.Annotation
import FragmentSearch.Source.Printer
import FragmentSearch.Source.Statement
import FragmentSearch.Text.Dedent

/-!
# From source to fragments

A class gives a fragment and so does what stands directly in its body: classes, functions, and the plain
names that assignments bind. At the top of a module only classes and functions count. Nothing is taken
from the inside of functions and control flow. Fragments come in the order of the source.
-/

namespace FragmentSearch.Source

open FragmentSearch.Text

/-! ## 1. Parts of a fragment -/

/-- Where the fragments of a source come from. -/
structure Origin where
  package : String
  filePath : String
  /-- The lines of the text. -/
  lines : List String

/-- The lines of a definition with its decorators. -/
def Extent.withDecorators (e : Extent) (decorators : List Nat) : Extent :=
  ⟨decorators.foldl min e.first, e.last⟩

/-- The text of an extent. -/
def Origin.slice (o : Origin) (e : Extent) : String :=
  "\n".intercalate ((o.lines.drop (e.first - 1)).take (e.last - (e.first - 1)))

/-- The documentation of a body: the text with which it begins. Where the program keeps a lone surrogate of that text, the
documentation here has the replacement character U+FFFD. -/
def documentation? : List Stmt → Option String
  | .expression _ (.constant (.text codes _)) :: _ => some (dedent (codes.map charOfCode))
  | _ => none

/-- The name of a base class: its last part, type arguments left aside. -/
def baseName? : Expr → Option String
  | .name id => some id
  | .attribute _ attr => some attr
  | .subscript value _ => baseName? value
  | _ => none

/-- Bases that make a class an enumeration. -/
def enumerationBases : List String := ["Enum", "IntEnum", "StrEnum", "Flag", "IntFlag"]

/-- Bases and metaclasses that make a class an interface. -/
def interfaceBases : List String := ["Protocol", "ABC", "ABCMeta"]

/-- The names of the bases of a class. -/
def ClassHead.baseNames (h : ClassHead) : List String := (h.bases.filterMap baseName?).filter (· ≠ "")

/-- The name of the metaclass of a class. -/
def ClassHead.metaclassNames (h : ClassHead) : List String :=
  h.keywords.filterMap fun
    | .mk name value => if name = some "metaclass" then baseName? value else none

/-- The kind of a class. -/
def ClassHead.kind (h : ClassHead) : Kind :=
  if h.baseNames.any enumerationBases.contains then .enumeration
  else if (h.baseNames ++ h.metaclassNames).any interfaceBases.contains then .interface
  else .classKind

/-- Written expressions of a list. -/
def textsOf : List Expr → Except PrintFault (List String)
  | [] => .ok []
  | e :: r => do return (← e.text) :: (← textsOf r)

/-- The signature of a class: its name and bases. -/
def ClassHead.signature (h : ClassHead) : Except PrintFault String := do
  let bases := ", ".intercalate (← textsOf h.bases)
  return if bases.isEmpty then "class " ++ h.name else "class " ++ h.name ++ "(" ++ bases ++ ")"

/-- The signature of a function. -/
def FunctionHead.signature (h : FunctionHead) : Except PrintFault String := do
  let parameters ← parametersText h.parameters
  let result ← match h.result with
    | some e => do pure (" -> " ++ (← e.text))
    | none => pure ""
  return (if h.isAsync then "async def " else "def ") ++ h.name ++ "(" ++ parameters ++ ")" ++ result

/-- The annotations of a function: of the parameters that are passed one by one, of those that take the
rest, and of the result. -/
def FunctionHead.annotations (h : FunctionHead) : List Expr :=
  let single := h.parameters.filter fun p => p.kind ≠ .rest && p.kind ≠ .keywords
  let rest := h.parameters.filter fun p => p.kind = .rest
  let keywords := h.parameters.filter fun p => p.kind = .keywords
  (single ++ rest ++ keywords).filterMap Parameter.type ++ h.result.toList

/-! ## 2. Fragments -/

/-- The fragment of a definition named `name` inside `parent`. -/
def Origin.fragment (o : Origin) (parent name : String) (kind : Kind) (extent : Extent) (signature : String)
    (documentation : Option String) (dependencies : List String) : Fragment :=
  { id := parent ++ "." ++ name, kind := kind, name := some name, signature := some signature,
    content := some (o.slice extent), filePath := o.filePath, startLine := extent.first,
    endLine := extent.last, package := some o.package, documentation := documentation,
    dependencies := dependencies, embedding := none }

/-- The fragment of a class. -/
def Origin.classFragment (o : Origin) (parent : String) (extent : Extent) (decorators : List Nat) (h : ClassHead)
    (body : List Stmt) : Except PrintFault Fragment := do
  return o.fragment parent h.name h.kind (extent.withDecorators decorators) (← h.signature)
    (documentation? body) (unique h.baseNames)

/-- The fragment of a function. -/
def Origin.functionFragment (o : Origin) (parent : String) (extent : Extent) (decorators : List Nat)
    (h : FunctionHead) (body : List Stmt) : Except PrintFault Fragment := do
  return o.fragment parent h.name .method (extent.withDecorators decorators) (← h.signature)
    (documentation? body) (annotationTypes h.annotations)

/-- The fragments of the plain names among assignment targets. -/
def Origin.fieldFragments (o : Origin) (parent : String) (extent : Extent) (signature : Except PrintFault String)
    (dependencies : List String) : List Expr → Except PrintFault (List Fragment)
  | [] => .ok []
  | .name id :: r => do
    let s := String.ofList ((← signature).toList.takeWhile (· ≠ '\n'))
    return o.fragment parent id .field extent s none dependencies ::
      (← o.fieldFragments parent extent signature dependencies r)
  | _ :: r => o.fieldFragments parent extent signature dependencies r

mutual

/-- The fragments of a statement that stands in `parent`, a class or the module. -/
def Origin.fragmentsOf (o : Origin) (parent : String) (inClass : Bool) : Stmt → Except PrintFault (List Fragment)
  | .classDef extent decorators head body => do
    let f ← o.classFragment parent extent decorators head body
    return f :: (← o.fragmentsOfAll f.id true body)
  | .functionDef extent decorators head body => do
    return [← o.functionFragment parent extent decorators head body]
  | .assign extent targets value =>
    if inClass then o.fieldFragments parent extent (assignText targets value) [] targets else .ok []
  | .annotate extent target type value bare =>
    if inClass then
      o.fieldFragments parent extent (annotateText target type value bare) (annotationTypes [type])
        [target]
    else .ok []
  | .expression _ _ => .ok []
  | .other _ _ => .ok []

/-- The fragments of statements in a row. -/
def Origin.fragmentsOfAll (o : Origin) (parent : String) (inClass : Bool) :
    List Stmt → Except PrintFault (List Fragment)
  | [] => .ok []
  | s :: r => do
    let here ← o.fragmentsOf parent inClass s
    return here ++ (← o.fragmentsOfAll parent inClass r)

end

/-! ## 3. Sources -/

/-- Why a source gives no fragments. -/
inductive SourceFault where
  /-- The text holds a character that no source may hold. -/
  | nullCharacter
  /-- The text fits no rule of the grammar. -/
  | malformed
  /-- A signature cannot be written. -/
  | unprintable (fault : PrintFault)
  deriving DecidableEq

/-- The report of a fault in the source of a file; what does not fit is not said. -/
def SourceFault.message (file : String) : SourceFault → String
  | .nullCharacter => "source code string cannot contain null bytes"
  | .malformed => "Syntax error in " ++ file ++ ":"
  | .unprintable e => e.message

/-- The fragments of a source text that belongs to `package`. -/
def fragments (named : List Char → Option Nat) (source package filePath : String) :
    Except SourceFault (List Fragment) :=
  if source.toList.contains (Char.ofNat 0) then .error .nullCharacter
  else match Module.ofSource? named source with
    | none => .error .malformed
    | some tree =>
      match (Origin.mk package filePath (lines source)).fragmentsOfAll package false tree with
      | .ok fs => .ok fs
      | .error e => .error (.unprintable e)

end FragmentSearch.Source
