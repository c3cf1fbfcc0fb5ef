import FragmentSearch.Fragment.Record
import FragmentSearch.Json.Reader
import FragmentSearch.Json.Writer

/-!
# Fragment sets as text

A fragment set is written as an indented JSON list. When it is read, the list may also stand under the
name `fragments` of an object.
-/

namespace FragmentSearch.Dump

/-! ## 1. Writing -/

/-- Can an integer be written? It may have no more digits than it may be read from. -/
def isWritable (i : Int) : Bool := (Decimal.digitsOf i.natAbs).length ≤ Decimal.maxIntegerDigits

/-- Can the line numbers of all fragments be written? -/
def hasWritableLines (fs : List Fragment) : Bool := fs.all fun f => isWritable f.startLine && isWritable f.endLine

/-- The text of a fragment set. -/
def text (withVectors : Bool) (fs : List Fragment) : String :=
  Json.renderIndented (.list (fs.map (Fragment.toJson withVectors)))

/-! ## 2. Reading -/

/-- Why a text is no fragment set. -/
inductive Error where
  /-- The text is not JSON. -/
  | malformed (text : String) (fault : Json.Fault)
  /-- The value holds no list of fragments. -/
  | noList
  /-- An item of the list is no record. -/
  | invalid (position : Nat) (e : RecordError)

/-- The items of a fragment set. -/
def itemsOf : Json → Option (List Json)
  | .list items => some items
  | .object fields =>
    match Json.lookup "fragments" fields with
    | some (.list items) => some items
    | _ => none
  | _ => none

/-- Reads the records of some items, the first of which stands at position `i`. -/
def recordsFrom (i : Nat) : List Json → Except Error (List Record)
  | [] => .ok []
  | v :: rest =>
    match Record.ofJson v with
    | .ok r => (recordsFrom (i + 1) rest).map (r :: ·)
    | .error e => .error (.invalid i e)

/-- Reads the records of a fragment set. -/
def records (s : String) : Except Error (List Record) :=
  match Json.parse s with
  | .error fault => .error (.malformed s fault)
  | .ok v =>
    match itemsOf v with
    | some items => recordsFrom 0 items
    | none => .error .noList

/-- The fragments of records that hold texts. -/
def fragments? (rs : List Record) : Option (List Fragment) := rs.mapM Fragment.ofRecord?

end FragmentSearch.Dump
