import FragmentSearch.Decimal.Places
import FragmentSearch.Json.Writer
import FragmentSearch.Ranking.Strategy

/-!
# Reports of results

The results of a search for a reader, for a terminal that makes links of places, and as JSON.
-/

namespace FragmentSearch.Report

/-! ## 1. For a reader -/

/-- A listing is at most this wide. -/
def maxWidth : Int := 78

/-- The width of a listing on a terminal with some columns; a number that is not positive says nothing. -/
def width (columns : Int) : Nat := (if columns ≤ 0 then maxWidth else min columns maxWidth).toNat

/-- A line across the listing. -/
def rule (n : Nat) : String := String.ofList (List.replicate n '─')

/-- A heading: how many results, of which ranking, in which time. -/
def heading (count : Nat) (strategy : String) (elapsed : Option String) : String :=
  "  " ++ toString count ++ " result" ++ (if count = 1 then "" else "s") ++
    (if strategy.isEmpty then "" else "  (" ++ strategy ++ ")") ++
    (match elapsed with
      | some t => " in " ++ t ++ " seconds"
      | none => "")

/-- A numbered result. -/
def resultLine (i : Nat) (r : SearchResult) : String :=
  "  [" ++ toString i ++ "] " ++ r.kind ++ ": " ++ Fragment.shown r.name ++ " - " ++ r.filePath ++ ":" ++
    toString r.startLine ++ "   (score " ++ Decimal.fixed 3 r.score ++ ")"

/-- The numbered listing; the numbers start from 0. `elapsed` is a time in seconds as text. -/
def console (columns : Int) (results : List SearchResult) (strategy : String) (elapsed : Option String) : String :=
  if results.isEmpty then "\n  No results found.\n"
  else
    let thin := rule (width columns)
    "\n".intercalate (["\n" ++ thin, heading results.length strategy elapsed, thin] ++
      (results.zipIdx.map fun p => resultLine p.2 p.1) ++ [thin, "  Use 'show <n>' for details"])

/-- A time in seconds. -/
def seconds (t : Float) : String := Decimal.fixed 4 t

/-! ## 2. For a terminal -/

/-- One line for each result, with its place first. -/
def compact (results : List SearchResult) : String :=
  if results.isEmpty then "No results found."
  else "\n".intercalate (results.map fun r =>
    r.filePath ++ ":" ++ toString r.startLine ++ "  " ++ Fragment.shown r.name ++ "  [" ++ r.kind ++ "]")

/-! ## 3. As JSON -/

/-- A score cannot be written. -/
structure UnwritableScore where
  score : Float

/-- The report of an error. -/
def UnwritableScore.message (e : UnwritableScore) : String :=
  "Out of range float values are not JSON compliant: " ++ Decimal.plain e.score

/-- Scores are written with this many decimal places. -/
def scorePlaces : Nat := 4

/-- A result as an object. -/
def record (r : SearchResult) : Json :=
  .object [("fragment_id", .text r.id), ("name", .ofText? r.name), ("kind", .text r.kind),
    ("file_path", .text (Text.replaceAll "\\" "/" r.filePath)), ("start_line", .int r.startLine),
    ("end_line", .int r.endLine), ("score", .float (Decimal.round scorePlaces r.score)), ("rank", .int r.place),
    ("strategy", .text r.strategy), ("package_name", .text r.package), ("signature", .text r.signature),
    ("context", .text r.context)]

/-- Is a score, as it is written, a finite number? -/
def isWritable (r : SearchResult) : Bool :=
  match Decimal.Binary.ofFloat (Decimal.round scorePlaces r.score) with
  | .finite _ _ _ => true
  | _ => false

/-- The results as a JSON list. -/
def json (results : List SearchResult) : Except UnwritableScore String :=
  match results.find? (!isWritable ·) with
  | some r => .error ⟨r.score⟩
  | none => .ok (Json.renderIndented (.list (results.map record)))

end FragmentSearch.Report
