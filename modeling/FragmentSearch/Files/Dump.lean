import FragmentSearch.Files.Tree
import FragmentSearch.Fragment.Dump

/-!
# Fragment sets in files
-/

namespace FragmentSearch

/-- Why a file gives no fragment set. -/
inductive LoadFault where
  | unreadable (file : Path) (e : FileFault)
  /-- The bytes are not text. -/
  | notText (file : Path)
  | unfit (file : Path) (e : Dump.Error)
  /-- The file is loaded, but a record of it holds something other than a text where a fragment has one. What
  the program goes on to do is not followed here. -/
  | untyped (file : Path)

/-- The report of a fault. Of bytes that are not text nothing is said, nor of records that are not followed. -/
def LoadFault.message : LoadFault → String
  | .unreadable file e => "Cannot load fragments from " ++ file.text ++ ": " ++ e.message file.text
  | .notText _ | .untyped _ => ""
  | .unfit file (.malformed s (.malformed reason position)) =>
    "Cannot load fragments from " ++ file.text ++ ": " ++ (Json.Fault.malformed reason position).message s
  | .unfit _ (.malformed s fault) => fault.message s
  | .unfit file .noList => file.text ++ ": expected a list of fragments"
  | .unfit file (.invalid i e) =>
    if e.isOverflow then e.message
    else file.text ++ ": invalid fragment at position " ++ toString i ++ ": " ++ e.message

/-- Is the fault one of those that are foreseen? Bytes that are not text and numbers out of range are not, and
of records that are not followed no report is made either. -/
def LoadFault.isForeseen : LoadFault → Bool
  | .unreadable _ _ => true
  | .notText _ | .untyped _ => false
  | .unfit _ (.malformed _ (.malformed _ _)) => true
  | .unfit _ (.malformed _ (.integerTooLong _)) => false
  | .unfit _ .noList => true
  | .unfit _ (.invalid _ e) => !e.isOverflow

/-- Why a fragment set is not written. -/
inductive DumpFault where
  /-- A line number has more digits than an integer may have. -/
  | integerTooLong
  | unwritable (file : Path) (e : FileFault)

/-- The report of a fault. -/
def DumpFault.message : DumpFault → String
  | .integerTooLong =>
    "Exceeds the limit (" ++ toString Decimal.maxIntegerDigits ++
      " digits) for integer string conversion; use sys.set_int_max_str_digits() to increase the limit"
  | .unwritable file e => e.message file.text

namespace FileTree

/-- The records in a file. -/
def records (t : FileTree) (file : Path) : Except LoadFault (List Record) :=
  match t.bytes file with
  | .error e => .error (.unreadable file e)
  | .ok b =>
    match decode? b with
    | none => .error (.notText file)
    | some s =>
      match Dump.records s with
      | .ok rs => .ok rs
      | .error e => .error (.unfit file e)

/-- The fragment set of a file. -/
def load (t : FileTree) (file : Path) : Except LoadFault (List Fragment) :=
  match t.records file with
  | .error e => .error e
  | .ok rs =>
    match Dump.fragments? rs with
    | some fs => .ok fs
    | none => .error (.untyped file)

/-- Writes a fragment set to a file. The text is made before the file is opened. -/
def dump (t : FileTree) (withVectors : Bool) (fs : List Fragment) (file : Path) : Except DumpFault FileTree :=
  if Dump.hasWritableLines fs then
    match t.write file (Dump.text withVectors fs).toUTF8 with
    | .ok t => .ok t
    | .error e => .error (.unwritable file e)
  else .error .integerTooLong

end FileTree

end FragmentSearch
